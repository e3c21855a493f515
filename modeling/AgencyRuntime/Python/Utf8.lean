import AgencyRuntime.Python.Str
import Mathlib.Tactic.SplitIfs

/-!
# UTF-8 is injective

The first byte of a character tells how many follow, so encoded texts split in one way only.
-/

namespace AgencyRuntime

namespace Py

theorem ofNat_eq_iff {a b : Nat} : UInt8.ofNat a = UInt8.ofNat b ↔ a % 256 = b % 256 := by
  rw [← UInt8.toNat_inj, UInt8.toNat_ofNat', UInt8.toNat_ofNat']

/-- One character is read off the front of an encoded text. -/
theorem utf8Char_append_inj {c d : CodePoint} {s t : Bytes}
    (h : utf8Char c ++ s = utf8Char d ++ t) : c = d ∧ s = t := by
  have hc := c.isLt
  have hd := d.isLt
  have hval : c.val = d.val ∧ s = t := by
    simp only [utf8Char] at h
    split_ifs at h <;>
      simp only [List.cons_append, List.nil_append, List.cons.injEq, ofNat_eq_iff] at h <;>
      first
        | exact ⟨by omega, h.2⟩
        | exact ⟨by omega, h.2.2⟩
        | exact ⟨by omega, h.2.2.2⟩
        | exact ⟨by omega, h.2.2.2.2⟩
        | exact absurd h.1 (by omega)
  exact ⟨Fin.ext hval.1, hval.2⟩

theorem utf8Char_ne_nil (c : CodePoint) : utf8Char c ≠ [] := by
  simp only [utf8Char]
  split_ifs <;> exact List.cons_ne_nil _ _

/-- Two texts with the same bytes are one text. -/
theorem utf8_inj {s t : Str} (h : utf8 s = utf8 t) : s = t := by
  induction s generalizing t with
  | nil =>
    cases t with
    | nil => rfl
    | cons d t =>
      have hnil := List.append_eq_nil_iff.1 (Eq.symm h)
      exact absurd hnil.1 (utf8Char_ne_nil d)
  | cons c s ih =>
    cases t with
    | nil => exact absurd (List.append_eq_nil_iff.1 h).1 (utf8Char_ne_nil c)
    | cons d t =>
      obtain ⟨rfl, hrest⟩ := utf8Char_append_inj h
      rw [ih hrest]

/-! ## Decoding -/

/-- A continuation byte. -/
def isContinuation (b : UInt8) : Bool := 0x80 ≤ b.toNat && b.toNat ≤ 0xBF

/-- The six bits of a continuation byte. -/
def sixBits (b : UInt8) : Nat := b.toNat - 0x80

/-- A decoded code point in front of the rest; not a surrogate, nor one that fewer bytes encode. -/
def decoded (least n : Nat) (rest : Option Str) : Option Str :=
  if least ≤ n && n < 0x110000 && !(0xD800 ≤ n && n ≤ 0xDFFF) then
    rest.map (Fin.ofNat _ n :: ·)
  else none

/-- `bytes.decode("utf-8")`; `none` where it raises `UnicodeDecodeError`. -/
def decodeUtf8 : Bytes → Option Str
  | [] => some []
  | a :: rest =>
    if a.toNat < 0x80 then decoded 0 a.toNat (decodeUtf8 rest)
    else match rest with
      | [] => none
      | b :: rest =>
        if !isContinuation b then none
        else if 0xC0 ≤ a.toNat && a.toNat < 0xE0 then
          decoded 0x80 ((a.toNat - 0xC0) * 64 + sixBits b) (decodeUtf8 rest)
        else match rest with
          | [] => none
          | c :: rest =>
            if !isContinuation c then none
            else if 0xE0 ≤ a.toNat && a.toNat < 0xF0 then
              decoded 0x800 ((a.toNat - 0xE0) * 4096 + sixBits b * 64 + sixBits c)
                (decodeUtf8 rest)
            else match rest with
              | [] => none
              | d :: rest =>
                if isContinuation d && 0xF0 ≤ a.toNat && a.toNat < 0xF8 then
                  decoded 0x10000 ((a.toNat - 0xF0) * 262144 + sixBits b * 4096 + sixBits c * 64 +
                    sixBits d) (decodeUtf8 rest)
                else none

theorem toNat_ofNat_of_lt {n : Nat} (h : n < 256) : (UInt8.ofNat n).toNat = n := by
  rw [UInt8.toNat_ofNat', Nat.mod_eq_of_lt h]

theorem isContinuation_ofNat {n : Nat} (h : n < 64) :
    isContinuation (UInt8.ofNat (0x80 + n)) = true := by
  rw [isContinuation, toNat_ofNat_of_lt (by omega)]
  exact Bool.and_eq_true_iff.2 ⟨decide_eq_true (by omega), decide_eq_true (by omega)⟩

theorem sixBits_ofNat {n : Nat} (h : n < 64) : sixBits (UInt8.ofNat (0x80 + n)) = n := by
  have hval : (UInt8.ofNat (0x80 + n)).toNat = 0x80 + n := toNat_ofNat_of_lt (by omega)
  exact (congrArg (fun k => k - 0x80) hval).trans (Nat.add_sub_cancel_left 0x80 n)

theorem decoded_val {c : CodePoint} (h : isSurrogate c = false) {least n : Nat} (hn : n = c.val)
    (hleast : least ≤ n) (rest : Option Str) : decoded least n rest = rest.map (c :: ·) := by
  subst hn
  have hlt := c.isLt
  have hnot : (0xD800 ≤ c.val && c.val ≤ 0xDFFF) = false := h
  rw [decoded, hnot]
  simp [hleast, hlt]

/-- One encoded character is read off the front. -/
theorem decodeUtf8_char {c : CodePoint} (h : isSurrogate c = false) (rest : Bytes) :
    decodeUtf8 (utf8Char c ++ rest) = (decodeUtf8 rest).map (c :: ·) := by
  have hlt := c.isLt
  rw [utf8Char]
  split_ifs with h1 h2 h3
  · have ha := toNat_ofNat_of_lt (n := c.val) (by omega)
    rw [List.singleton_append, decodeUtf8.eq_def]
    simp only [ha, h1, if_true]
    exact decoded_val h rfl (Nat.zero_le _) _
  · have ha := toNat_ofNat_of_lt (n := 0xC0 + c.val / 64) (by omega)
    have hb := isContinuation_ofNat (n := c.val % 64) (by omega)
    rw [List.cons_append, decodeUtf8.eq_def]
    simp only [List.cons_append, List.nil_append, ha, hb]
    rw [if_neg (by omega), if_neg (by simp), if_pos (by simp; omega), sixBits_ofNat (by omega)]
    exact decoded_val h (by omega) (by omega) _
  · have ha := toNat_ofNat_of_lt (n := 0xE0 + c.val / 4096) (by omega)
    have hb := isContinuation_ofNat (n := c.val / 64 % 64) (by omega)
    have hc := isContinuation_ofNat (n := c.val % 64) (by omega)
    rw [List.cons_append, decodeUtf8.eq_def]
    simp only [List.cons_append, List.nil_append, ha, hb, hc]
    rw [if_neg (by omega), if_neg (by simp), if_neg (by simp), if_neg (by simp),
      if_pos (by simp; omega), sixBits_ofNat (by omega), sixBits_ofNat (by omega)]
    exact decoded_val h (by omega) (by omega) _
  · have ha := toNat_ofNat_of_lt (n := 0xF0 + c.val / 262144) (by omega)
    have hb := isContinuation_ofNat (n := c.val / 4096 % 64) (by omega)
    have hc := isContinuation_ofNat (n := c.val / 64 % 64) (by omega)
    have hd := isContinuation_ofNat (n := c.val % 64) (by omega)
    rw [List.cons_append, decodeUtf8.eq_def]
    simp only [List.cons_append, List.nil_append, ha, hb, hc, hd]
    rw [if_neg (by omega), if_neg (by simp), if_neg (by simp; omega), if_neg (by simp),
      if_neg (by simp), if_pos (by simp; omega), sixBits_ofNat (by omega),
      sixBits_ofNat (by omega), sixBits_ofNat (by omega)]
    exact decoded_val h (by omega) (by omega) _

/-- An encoded text is read back. -/
theorem decodeUtf8_utf8 {s : Str} (h : encodable s = true) : decodeUtf8 (utf8 s) = some s := by
  induction s with
  | nil => rfl
  | cons c s ih =>
    rw [encodable, List.all_cons, Bool.and_eq_true, Bool.not_eq_true'] at h
    rw [utf8, List.flatMap_cons, decodeUtf8_char h.1]
    exact congrArg (Option.map (c :: ·)) (ih h.2)

end Py

end AgencyRuntime
