import Mathlib.Algebra.Group.Int.Defs
import Mathlib.Algebra.Group.Nat.Defs
import Mathlib.Algebra.GroupWithZero.Nat
import Mathlib.Data.List.Lex
import Mathlib.Data.List.Sort

/-!
# Python text

A Python `str` is a sequence of code points and may hold lone surrogates, which no encoding
accepts; Lean's `String` cannot hold them. `Str` is that sequence, and the functions here are the
`str` methods the runtime calls, on all code points.
-/

namespace AgencyRuntime

/-- A Unicode code point, surrogates included. -/
abbrev CodePoint := Fin 0x110000

instance codePoint_neZero : NeZero 0x110000 := ⟨by decide⟩

/-- A Python `str`. -/
abbrev Str := List CodePoint

instance str_lawfulBEq : LawfulBEq Str := inferInstance

instance strPair_lawfulBEq : LawfulBEq (Str × Str) := inferInstance

/-- A Python `bytes`. -/
abbrev Bytes := List UInt8

namespace Py

/-- A source literal as a `str`. -/
def lit (s : String) : Str := s.toList.map fun c => Fin.ofNat _ c.toNat

/-- Decimal digits of a number, as `str(n)` writes them. -/
def ofNat (n : Nat) : Str := lit (toString n)

/-- `str(n)` of a Python `int`. -/
def ofInt : Int → Str
  | .ofNat n => ofNat n
  | .negSucc n => lit "-" ++ ofNat (n + 1)

/-- `ch in "…"` for an ASCII range. -/
def inRange (lo hi : Char) (c : CodePoint) : Bool := lo.toNat ≤ c.val && c.val ≤ hi.toNat

/-- `[A-Za-z0-9]` -/
def isAlnum (c : CodePoint) : Bool :=
  inRange 'A' 'Z' c || inRange 'a' 'z' c || inRange '0' '9' c

/-- `c` is one of the characters of the literal. -/
def oneOf (s : String) (c : CodePoint) : Bool := s.toList.any fun d => d.toNat == c.val

/-- `str.isascii` -/
def isascii (s : Str) : Bool := s.all fun c => c.val < 128

/-- A pattern `head tail{lo,hi}` matched in full. -/
def isToken (head tail : CodePoint → Bool) (lo hi : Nat) : Str → Bool
  | [] => false
  | c :: cs => head c && lo ≤ cs.length && cs.length ≤ hi && cs.all tail

/-- `[a-z0-9]` -/
def isLowerAlnum (c : CodePoint) : Bool := inRange 'a' 'z' c || inRange '0' '9' c

/-- A lone surrogate, which no codec encodes. -/
def isSurrogate (c : CodePoint) : Bool := 0xD800 ≤ c.val && c.val ≤ 0xDFFF

/-- The code points `str.isdigit` accepts: decimal digits of every script and the superscript,
subscript and circled digits. -/
def digitRanges : List (Nat × Nat) :=
  [
    (0x30, 0x39), (0xB2, 0xB3), (0xB9, 0xB9), (0x660, 0x669), (0x6F0, 0x6F9), (0x7C0, 0x7C9),
    (0x966, 0x96F), (0x9E6, 0x9EF), (0xA66, 0xA6F), (0xAE6, 0xAEF), (0xB66, 0xB6F),
    (0xBE6, 0xBEF), (0xC66, 0xC6F), (0xCE6, 0xCEF), (0xD66, 0xD6F), (0xDE6, 0xDEF),
    (0xE50, 0xE59), (0xED0, 0xED9), (0xF20, 0xF29), (0x1040, 0x1049), (0x1090, 0x1099),
    (0x1369, 0x1371), (0x17E0, 0x17E9), (0x1810, 0x1819), (0x1946, 0x194F), (0x19D0, 0x19DA),
    (0x1A80, 0x1A89), (0x1A90, 0x1A99), (0x1B50, 0x1B59), (0x1BB0, 0x1BB9), (0x1C40, 0x1C49),
    (0x1C50, 0x1C59), (0x2070, 0x2070), (0x2074, 0x2079), (0x2080, 0x2089), (0x2460, 0x2468),
    (0x2474, 0x247C), (0x2488, 0x2490), (0x24EA, 0x24EA), (0x24F5, 0x24FD), (0x24FF, 0x24FF),
    (0x2776, 0x277E), (0x2780, 0x2788), (0x278A, 0x2792), (0xA620, 0xA629), (0xA8D0, 0xA8D9),
    (0xA900, 0xA909), (0xA9D0, 0xA9D9), (0xA9F0, 0xA9F9), (0xAA50, 0xAA59), (0xABF0, 0xABF9),
    (0xFF10, 0xFF19), (0x104A0, 0x104A9), (0x10A40, 0x10A43), (0x10D30, 0x10D39),
    (0x10E60, 0x10E68), (0x11052, 0x1105A), (0x11066, 0x1106F), (0x110F0, 0x110F9),
    (0x11136, 0x1113F), (0x111D0, 0x111D9), (0x112F0, 0x112F9), (0x11450, 0x11459),
    (0x114D0, 0x114D9), (0x11650, 0x11659), (0x116C0, 0x116C9), (0x11730, 0x11739),
    (0x118E0, 0x118E9), (0x11950, 0x11959), (0x11C50, 0x11C59), (0x11D50, 0x11D59),
    (0x11DA0, 0x11DA9), (0x16A60, 0x16A69), (0x16AC0, 0x16AC9), (0x16B50, 0x16B59),
    (0x1D7CE, 0x1D7FF), (0x1E140, 0x1E149), (0x1E2F0, 0x1E2F9), (0x1E950, 0x1E959),
    (0x1F100, 0x1F10A), (0x1FBF0, 0x1FBF9)]

/-- `str.isdigit` of one character. -/
def isDigitChar (c : CodePoint) : Bool := digitRanges.any fun r => r.1 ≤ c.val && c.val ≤ r.2

/-- `str.isdigit` -/
def isdigit (s : Str) : Bool := !s.isEmpty && s.all isDigitChar

/-- The code points `str.strip` removes. -/
def isSpace (c : CodePoint) : Bool :=
  (0x9 ≤ c.val && c.val ≤ 0xD) || (0x1C ≤ c.val && c.val ≤ 0x20) || c.val == 0x85 ||
  c.val == 0xA0 || c.val == 0x1680 || (0x2000 ≤ c.val && c.val ≤ 0x200A) || c.val == 0x2028 ||
  c.val == 0x2029 || c.val == 0x202F || c.val == 0x205F || c.val == 0x3000

/-- `str.strip` -/
def strip (s : Str) : Str :=
  ((s.dropWhile isSpace).reverse.dropWhile isSpace).reverse

/-- `str.upper` of one character, as far as its result can meet an ASCII letter: the ASCII letters
and the other code points whose upper case has one. Every other code point stands for its own upper
case, which has no ASCII letter either. -/
def upperChar (c : CodePoint) : Str :=
  if inRange 'a' 'z' c then [Fin.ofNat _ (c.val - 32)]
  else match c.val with
    | 0xDF => lit "SS"
    | 0x131 => lit "I"
    | 0x149 => [0x2BC] ++ lit "N"
    | 0x17F => lit "S"
    | 0x1F0 => lit "J" ++ [0x30C]
    | 0x1E96 => lit "H" ++ [0x331]
    | 0x1E97 => lit "T" ++ [0x308]
    | 0x1E98 => lit "W" ++ [0x30A]
    | 0x1E99 => lit "Y" ++ [0x30A]
    | 0x1E9A => lit "A" ++ [0x2BE]
    | 0xFB00 => lit "FF"
    | 0xFB01 => lit "FI"
    | 0xFB02 => lit "FL"
    | 0xFB03 => lit "FFI"
    | 0xFB04 => lit "FFL"
    | 0xFB05 => lit "ST"
    | 0xFB06 => lit "ST"
    | _ => [c]

/-- `str.upper`, compared with ASCII constants only. -/
def upper (s : Str) : Str := s.flatMap upperChar

/-- UTF-8 of one code point that is not a surrogate. -/
def utf8Char (c : CodePoint) : Bytes :=
  let n := c.val
  if n < 0x80 then [UInt8.ofNat n]
  else if n < 0x800 then [UInt8.ofNat (0xC0 + n / 64), UInt8.ofNat (0x80 + n % 64)]
  else if n < 0x10000 then
    [UInt8.ofNat (0xE0 + n / 4096), UInt8.ofNat (0x80 + n / 64 % 64), UInt8.ofNat (0x80 + n % 64)]
  else
    [UInt8.ofNat (0xF0 + n / 262144), UInt8.ofNat (0x80 + n / 4096 % 64),
      UInt8.ofNat (0x80 + n / 64 % 64), UInt8.ofNat (0x80 + n % 64)]

/-- No lone surrogate: `str.encode("utf-8")` succeeds. -/
def encodable (s : Str) : Bool := s.all fun c => !isSurrogate c

/-- The bytes `str.encode("utf-8")` gives for an encodable text. -/
def utf8 (s : Str) : Bytes := s.flatMap utf8Char

/-- `sep.join(parts)` -/
def join (sep : Str) (parts : List Str) : Str := (parts.intersperse sep).flatten

/-- One upper-case hexadecimal digit. -/
def hexDigit (n : Nat) : CodePoint :=
  if n < 10 then Fin.ofNat _ (0x30 + n) else Fin.ofNat _ (0x41 + n - 10)

/-- `urllib.parse.quote` of one byte: an unreserved character stands for itself. -/
def quoteByte (safe : String) (b : UInt8) : Str :=
  let c : CodePoint := Fin.ofNat _ b.toNat
  if isAlnum c || oneOf "_.-~" c || oneOf safe c then [c]
  else lit "%" ++ [hexDigit (b.toNat / 16), hexDigit (b.toNat % 16)]

/-- One character of the base-64 alphabet. -/
def b64Char (n : Nat) : CodePoint :=
  if n < 26 then Fin.ofNat _ (0x41 + n)
  else if n < 52 then Fin.ofNat _ (0x61 + n - 26)
  else if n < 62 then Fin.ofNat _ (0x30 + n - 52)
  else if n = 62 then Fin.ofNat _ 0x2B
  else Fin.ofNat _ 0x2F

/-- `base64.b64encode(b).decode("ascii")` -/
def b64encode : Bytes → Str
  | a :: b :: c :: rest =>
    [b64Char (a.toNat / 4), b64Char (a.toNat % 4 * 16 + b.toNat / 16),
      b64Char (b.toNat % 16 * 4 + c.toNat / 64), b64Char (c.toNat % 64)] ++ b64encode rest
  | [a, b] =>
    [b64Char (a.toNat / 4), b64Char (a.toNat % 4 * 16 + b.toNat / 16),
      b64Char (b.toNat % 16 * 4)] ++ lit "="
  | [a] => [b64Char (a.toNat / 4), b64Char (a.toNat % 4 * 16)] ++ lit "=="
  | [] => []

/-- `text.replace(ch, new)` for a single character. -/
def replaceChar (old : Char) (new : String) (s : Str) : Str :=
  s.flatMap fun c => if c.val = old.toNat then lit new else [c]

/-- `text.endswith(suffix)` -/
def endswith (s : Str) (suffix : String) : Bool := (lit suffix).isSuffixOf s

@[simp] theorem isascii_nil : isascii [] = true := rfl

@[simp] theorem isascii_append (s t : Str) : isascii (s ++ t) = (isascii s && isascii t) :=
  List.all_append

@[simp] theorem isascii_cons (c : CodePoint) (s : Str) :
    isascii (c :: s) = (decide (c.val < 128) && isascii s) := rfl

theorem isascii_flatMap {α : Type} {f : α → Str} {xs : List α}
    (h : ∀ x ∈ xs, isascii (f x) = true) : isascii (xs.flatMap f) = true := by
  induction xs with
  | nil => rfl
  | cons x xs ih =>
    rw [List.flatMap_cons, isascii_append, h x List.mem_cons_self,
      ih fun y hy => h y (List.mem_cons_of_mem x hy)]
    rfl

/-- A character of a joined text is in the separator or in a part. -/
theorem mem_join {sep : Str} {parts : List Str} {c : CodePoint} (h : c ∈ join sep parts) :
    c ∈ sep ∨ ∃ p ∈ parts, c ∈ p := by
  induction parts with
  | nil => cases h
  | cons p parts ih =>
    cases parts with
    | nil => exact .inr ⟨p, List.mem_cons_self, by simpa [join] using h⟩
    | cons q parts =>
      have he : join sep (p :: q :: parts) = p ++ (sep ++ join sep (q :: parts)) := by
        simp [join]
      rw [he, List.mem_append, List.mem_append] at h
      rcases h with h | h | h
      · exact .inr ⟨p, List.mem_cons_self, h⟩
      · exact .inl h
      · rcases ih h with h | ⟨r, hr, h⟩
        · exact .inl h
        · exact .inr ⟨r, List.mem_cons_of_mem p hr, h⟩

theorem isascii_join {sep : Str} {parts : List Str} (hs : isascii sep = true)
    (h : ∀ p ∈ parts, isascii p = true) : isascii (join sep parts) = true := by
  rw [isascii, List.all_eq_true]
  intro c hc
  rcases mem_join hc with hc | ⟨p, hp, hc⟩
  · exact List.all_eq_true.1 hs c hc
  · exact List.all_eq_true.1 (h p hp) c hc

/-- Decimal text consists of the digits from 0 to 9. -/
theorem mem_ofNat {n : Nat} {c : CodePoint} (h : c ∈ ofNat n) : 48 ≤ c.val ∧ c.val ≤ 57 := by
  rw [ofNat, lit, List.mem_map] at h
  obtain ⟨d, hd, rfl⟩ := h
  have hd : d.isDigit = true := @Nat.isDigit_of_mem_toDigits 10 n d (by decide) (by decide)
    (by simpa [toString, Nat.repr] using hd)
  simp only [Char.isDigit, ge_iff_le, Bool.and_eq_true, decide_eq_true_eq] at hd
  have h1 : 48 ≤ d.toNat := hd.1
  have h2 : d.toNat ≤ 57 := hd.2
  simp only [Fin.ofNat]
  omega

theorem isascii_ofNat (n : Nat) : isascii (ofNat n) = true := by
  rw [isascii, List.all_eq_true]
  intro c hc
  have := mem_ofNat hc
  exact decide_eq_true (by omega)

theorem isascii_ofInt (n : Int) : isascii (ofInt n) = true := by
  cases n with
  | ofNat n => exact isascii_ofNat n
  | negSucc n =>
    rw [ofInt, isascii_append, isascii_ofNat]
    decide

theorem isAlnum_range {c : CodePoint} (h : isAlnum c = true) : 48 ≤ c.val ∧ c.val ≤ 122 := by
  simp only [isAlnum, inRange, Bool.or_eq_true, Bool.and_eq_true, decide_eq_true_eq] at h
  have : ('A' : Char).toNat = 65 ∧ ('a' : Char).toNat = 97 ∧ ('0' : Char).toNat = 48 := by decide
  have : ('Z' : Char).toNat = 90 ∧ ('z' : Char).toNat = 122 ∧ ('9' : Char).toNat = 57 := by decide
  omega

/-- A text that matches a pattern of ASCII characters is ASCII. -/
theorem isascii_of_isToken {head tail : CodePoint → Bool} {lo hi : Nat} {s : Str}
    (hhead : ∀ c, head c = true → c.val < 128) (htail : ∀ c, tail c = true → c.val < 128)
    (h : isToken head tail lo hi s = true) : isascii s = true := by
  cases s with
  | nil => cases h
  | cons c cs =>
    simp only [isToken, Bool.and_eq_true, List.all_eq_true] at h
    rw [isascii, List.all_eq_true]
    intro d hd
    rcases List.mem_cons.1 hd with rfl | hd
    · exact decide_eq_true (hhead d h.1.1.1)
    · exact decide_eq_true (htail d (h.2 d hd))

theorem oneOf_iff {s : String} {c : CodePoint} :
    oneOf s c = true ↔ ∃ d ∈ s.toList, d.toNat = c.val := by
  simp [oneOf]

theorem hexDigit_lt {n : Nat} (h : n < 16) : (hexDigit n).val < 128 := by
  have hall : ∀ k : Fin 16, (hexDigit k.val).val < 128 := by decide
  exact hall ⟨n, h⟩

/-- Percent-quoted text is ASCII, whatever characters are left alone. -/
theorem isascii_quoteByte {safe : String} (hs : isascii (lit safe) = true) (b : UInt8) :
    isascii (quoteByte safe b) = true := by
  have hb := b.toNat_lt
  simp only [quoteByte]
  split
  · next h =>
    simp only [isascii_cons, isascii_nil, Bool.and_true, decide_eq_true_eq]
    simp only [isascii, lit, List.all_map, List.all_eq_true, Function.comp_apply,
      decide_eq_true_eq] at hs
    rcases Bool.or_eq_true _ _ ▸ h with h | h
    · rcases Bool.or_eq_true _ _ ▸ h with h | h
      · have := isAlnum_range h
        omega
      · have hall : ∀ d ∈ "_.-~".toList, d.toNat < 128 := by simp
        obtain ⟨d, hd, h⟩ := oneOf_iff.1 h
        exact h ▸ hall d hd
    · obtain ⟨d, hd, h⟩ := oneOf_iff.1 h
      have := hs d hd
      simp only [Fin.ofNat] at this h ⊢
      omega
  · have h1 : (hexDigit (b.toNat / 16)).val < 128 := hexDigit_lt (by omega)
    have h2 : (hexDigit (b.toNat % 16)).val < 128 := hexDigit_lt (by omega)
    simp only [isascii_append, isascii_cons, isascii_nil, h1, h2]
    decide

/-- Base-64 text is ASCII. -/
theorem isascii_b64encode (b : Bytes) : isascii (b64encode b) = true := by
  have hc : ∀ n, (b64Char n).val < 128 := by
    intro n
    unfold b64Char
    split_ifs <;> simp only [Fin.ofNat] <;> omega
  fun_induction b64encode b with
  | case1 a b c rest ih => simp [hc, ih]
  | case2 a b => simpa [hc] using (by decide : isascii (lit "=") = true)
  | case3 a => simpa [hc] using (by decide : isascii (lit "==") = true)
  | case4 => rfl

theorem encodable_of_isascii {s : Str} (h : isascii s = true) : encodable s = true := by
  simp only [isascii, encodable, List.all_eq_true, decide_eq_true_eq] at h ⊢
  intro c hc
  have := h c hc
  simp only [isSurrogate, Bool.not_eq_true', Bool.and_eq_false_iff, decide_eq_false_iff_not]
  omega

/-- A digit is neither a control character nor DEL. -/
theorem isDigitChar_ge {c : CodePoint} (h : isDigitChar c = true) :
    32 ≤ c.val ∧ c.val ≠ 127 := by
  have hall : ∀ r ∈ digitRanges, 32 ≤ r.1 ∧ (r.2 < 127 ∨ 127 < r.1) := by decide
  simp only [isDigitChar, List.any_eq_true, Bool.and_eq_true, decide_eq_true_eq] at h
  obtain ⟨r, hr, h1, h2⟩ := h
  have := hall r hr
  omega

/-- No digit is a surrogate. -/
theorem isDigitChar_not_surrogate {c : CodePoint} (h : isDigitChar c = true) :
    isSurrogate c = false := by
  have hall : ∀ r ∈ digitRanges, r.2 < 0xD800 ∨ 0xDFFF < r.1 := by decide
  simp only [isDigitChar, List.any_eq_true, Bool.and_eq_true, decide_eq_true_eq] at h
  obtain ⟨r, hr, h1, h2⟩ := h
  have := hall r hr
  simp only [isSurrogate, Bool.and_eq_false_iff, decide_eq_false_iff_not]
  omega

theorem encodable_of_isdigit {s : Str} (h : isdigit s = true) : encodable s = true := by
  simp only [isdigit, encodable, Bool.and_eq_true, List.all_eq_true] at h ⊢
  exact fun c hc => by simp [isDigitChar_not_surrogate (h.2 c hc)]

end Py

end AgencyRuntime
