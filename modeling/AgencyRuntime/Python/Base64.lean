import AgencyRuntime.Python.Exn
import Mathlib.Data.List.DropRight

/-!
# Base-64 text

`base64.urlsafe_b64encode` and `base64.urlsafe_b64decode`. The decoder is `binascii.a2b_base64`
without strict mode: it passes over what is not of the alphabet, and stops at the padding that
completes a quartet. It reads back what was encoded (`a2bBase64_b64encode`).
-/

namespace AgencyRuntime

namespace Py

/-- The number a character of the alphabet stands for. -/
def b64Value (c : CodePoint) : Option Nat :=
  if inRange 'A' 'Z' c then some (c.val - 65)
  else if inRange 'a' 'z' c then some (c.val - 71)
  else if inRange '0' '9' c then some (c.val + 4)
  else if c.val = 0x2B then some 62
  else if c.val = 0x2F then some 63
  else none

/-- The characters of a quartet read so far: how many, the bits no byte has been made of yet, and the
padding after them. -/
structure Quartet where
  position : Nat := 0
  left : Nat := 0
  pads : Nat := 0

/-- `binascii.a2b_base64` from within a quartet. -/
def a2bBase64 (q : Quartet) : Str → Except Exn Bytes
  | [] =>
    if q.position = 0 then .ok []
    else if q.position = 1 then
      .error (.valueError "Invalid base64-encoded string: number of data characters cannot be 1 more than a multiple of 4")
    else .error (.valueError "Incorrect padding")
  | c :: cs =>
    if c.val = 0x3D then
      if 2 ≤ q.position then
        if 4 ≤ q.position + (q.pads + 1) then .ok []
        else a2bBase64 { q with pads := q.pads + 1 } cs
      else a2bBase64 q cs
    else match b64Value c with
      | none => a2bBase64 q cs
      | some v =>
        match q.position with
        | 0 => a2bBase64 ⟨1, v, 0⟩ cs
        | 1 => do return UInt8.ofNat (q.left * 4 + v / 16) :: (← a2bBase64 ⟨2, v % 16, 0⟩ cs)
        | 2 => do return UInt8.ofNat (q.left * 16 + v / 4) :: (← a2bBase64 ⟨3, v % 4, 0⟩ cs)
        | _ => do return UInt8.ofNat (q.left * 64 + v) :: (← a2bBase64 ⟨0, 0, 0⟩ cs)

/-- The translation of `urlsafe_b64encode`. -/
def urlsafeChar (c : CodePoint) : CodePoint :=
  if c.val = 0x2B then 0x2D else if c.val = 0x2F then 0x5F else c

/-- The translation of `urlsafe_b64decode`. -/
def standardChar (c : CodePoint) : CodePoint :=
  if c.val = 0x2D then 0x2B else if c.val = 0x5F then 0x2F else c

/-- `base64.urlsafe_b64encode(b).decode("ascii")` -/
def urlsafeB64encode (b : Bytes) : Str := (b64encode b).map urlsafeChar

/-- `base64.urlsafe_b64decode` -/
def urlsafeB64decode (s : Str) : Except Exn Bytes := do
  check (isascii s) (.valueError "string argument should contain only ASCII characters")
  a2bBase64 {} (s.map standardChar)

/-- `text.rstrip("=")` -/
def rstripPad (s : Str) : Str := s.rdropWhile fun c => c.val = 0x3D

/-! ## Reading back -/

theorem b64Char_spec (v : Fin 64) :
    b64Value (b64Char v) = some v.val ∧ (b64Char v).val ≠ 0x3D ∧
      standardChar (urlsafeChar (b64Char v)) = b64Char v ∧ (urlsafeChar (b64Char v)).val ≠ 0x3D := by
  revert v
  decide

section
variable {n : Nat} (h : n < 64) {cs : Str} {left : Nat}
include h

theorem b64Value_b64Char : b64Value (b64Char n) = some n := (b64Char_spec ⟨n, h⟩).1

theorem b64Char_ne_pad : (b64Char n).val ≠ 0x3D := (b64Char_spec ⟨n, h⟩).2.1

theorem a2bBase64_first : a2bBase64 {} (b64Char n :: cs) = a2bBase64 ⟨1, n, 0⟩ cs := by
  rw [a2bBase64, if_neg (b64Char_ne_pad h), b64Value_b64Char h]
  rfl

theorem a2bBase64_second : a2bBase64 ⟨1, left, 0⟩ (b64Char n :: cs) =
    (a2bBase64 ⟨2, n % 16, 0⟩ cs).map (UInt8.ofNat (left * 4 + n / 16) :: ·) := by
  rw [a2bBase64, if_neg (b64Char_ne_pad h), b64Value_b64Char h]
  rfl

theorem a2bBase64_third : a2bBase64 ⟨2, left, 0⟩ (b64Char n :: cs) =
    (a2bBase64 ⟨3, n % 4, 0⟩ cs).map (UInt8.ofNat (left * 16 + n / 4) :: ·) := by
  rw [a2bBase64, if_neg (b64Char_ne_pad h), b64Value_b64Char h]
  rfl

theorem a2bBase64_fourth : a2bBase64 ⟨3, left, 0⟩ (b64Char n :: cs) =
    (a2bBase64 {} cs).map (UInt8.ofNat (left * 64 + n) :: ·) := by
  rw [a2bBase64, if_neg (b64Char_ne_pad h), b64Value_b64Char h]
  rfl

end

/-- A byte put together again. -/
theorem ofNat_byte {a : UInt8} {n : Nat} (h : n = a.toNat) : UInt8.ofNat n = a := by
  rw [h, UInt8.ofNat_toNat]

/-- What was encoded is read back. -/
theorem a2bBase64_b64encode (b : Bytes) : a2bBase64 {} (b64encode b) = .ok b := by
  fun_induction b64encode b with
  | case1 a b c rest ih =>
    have ha := a.toNat_lt
    have hb := b.toNat_lt
    have hc := c.toNat_lt
    simp only [List.cons_append, List.nil_append]
    rw [a2bBase64_first (by omega), a2bBase64_second (by omega), a2bBase64_third (by omega),
      a2bBase64_fourth (by omega), ih]
    simp only [Except.map]
    rw [ofNat_byte (a := a) (by omega), ofNat_byte (a := b) (by omega),
      ofNat_byte (a := c) (by omega)]
  | case2 a b =>
    have ha := a.toNat_lt
    have hb := b.toNat_lt
    simp only [List.cons_append, List.nil_append]
    rw [a2bBase64_first (by omega), a2bBase64_second (by omega), a2bBase64_third (by omega)]
    have hpad (left : Nat) : a2bBase64 ⟨3, left, 0⟩ (lit "=") = .ok [] := rfl
    rw [hpad]
    simp only [Except.map]
    rw [ofNat_byte (a := a) (by omega), ofNat_byte (a := b) (by omega)]
  | case3 a =>
    have ha := a.toNat_lt
    simp only [List.cons_append, List.nil_append]
    rw [a2bBase64_first (by omega), a2bBase64_second (by omega)]
    have hpad (left : Nat) : a2bBase64 ⟨2, left, 0⟩ (lit "==") = .ok [] := rfl
    rw [hpad]
    simp only [Except.map]
    rw [ofNat_byte (a := a) (by omega)]
  | case4 => rfl

/-- An encoded text is made of characters of the alphabet and of the padding up to the next quartet. -/
theorem b64encode_shape (b : Bytes) : ∃ digits : List (Fin 64),
    b64encode b = (digits.map fun v => b64Char v.val) ++
      List.replicate ((4 - digits.length % 4) % 4) 0x3D ∧
    digits.length = (4 * b.length + 2) / 3 := by
  fun_induction b64encode b with
  | case1 a b c rest ih =>
    obtain ⟨digits, hdigits, hlength⟩ := ih
    have ha := a.toNat_lt
    have hb := b.toNat_lt
    have hc := c.toNat_lt
    refine ⟨⟨a.toNat / 4, by omega⟩ :: ⟨a.toNat % 4 * 16 + b.toNat / 16, by omega⟩ ::
      ⟨b.toNat % 16 * 4 + c.toNat / 64, by omega⟩ :: ⟨c.toNat % 64, by omega⟩ :: digits, ?_, ?_⟩
    · rw [hdigits]
      simp only [List.map_cons, List.cons_append, List.nil_append, List.length_cons]
      congr 6
      omega
    · simp only [List.length_cons]
      omega
  | case2 a b =>
    have ha := a.toNat_lt
    have hb := b.toNat_lt
    exact ⟨[⟨a.toNat / 4, by omega⟩, ⟨a.toNat % 4 * 16 + b.toNat / 16, by omega⟩,
      ⟨b.toNat % 16 * 4, by omega⟩], rfl, by simp⟩
  | case3 a =>
    have ha := a.toNat_lt
    exact ⟨[⟨a.toNat / 4, by omega⟩, ⟨a.toNat % 4 * 16, by omega⟩], rfl, by simp⟩
  | case4 => exact ⟨[], rfl, rfl⟩

/-- A text without its padding, and with as much of it as completes the last quartet. -/
def repad (s : Str) : Str := s ++ List.replicate ((4 - s.length % 4) % 4) 0x3D

/-- What is taken off the end is the padding. -/
theorem rstripPad_append {s : Str} (h : ∀ c ∈ s, c.val ≠ 0x3D) (k : Nat) :
    rstripPad (s ++ List.replicate k 0x3D) = s := by
  induction k with
  | zero =>
    rw [List.replicate_zero, List.append_nil, rstripPad, List.rdropWhile_eq_self_iff]
    intro hs
    simpa using h _ (List.getLast_mem hs)
  | succ k ih =>
    rw [List.replicate_succ', ← List.append_assoc, rstripPad, List.rdropWhile_concat_pos _ _ _ rfl]
    exact ih

/-- An encoded text without its padding, as its digits. -/
theorem rstripPad_urlsafeB64encode (b : Bytes) : ∃ digits : List (Fin 64),
    rstripPad (urlsafeB64encode b) = (digits.map fun v => urlsafeChar (b64Char v.val)) ∧
    b64encode b = (digits.map fun v => b64Char v.val) ++
      List.replicate ((4 - digits.length % 4) % 4) 0x3D ∧
    digits.length = (4 * b.length + 2) / 3 := by
  obtain ⟨digits, hdigits, hlength⟩ := b64encode_shape b
  refine ⟨digits, ?_, hdigits, hlength⟩
  rw [urlsafeB64encode, hdigits, List.map_append, List.map_replicate, List.map_map]
  refine rstripPad_append (fun c hc => ?_) _
  obtain ⟨v, -, rfl⟩ := List.mem_map.1 hc
  exact (b64Char_spec v).2.2.2

theorem length_rstripPad_urlsafeB64encode (b : Bytes) :
    (rstripPad (urlsafeB64encode b)).length = (4 * b.length + 2) / 3 := by
  obtain ⟨digits, hstrip, -, hlength⟩ := rstripPad_urlsafeB64encode b
  rw [hstrip, List.length_map, hlength]

/-- The padding that is taken off an encoded text is the padding that is put back. -/
theorem repad_rstripPad (b : Bytes) :
    (repad (rstripPad (urlsafeB64encode b))).map standardChar = b64encode b := by
  obtain ⟨digits, hstrip, hdigits, -⟩ := rstripPad_urlsafeB64encode b
  have hback : (digits.map fun v => urlsafeChar (b64Char v.val)).map standardChar =
      digits.map fun v => b64Char v.val := by
    rw [List.map_map]
    exact List.map_congr_left fun v _ => (b64Char_spec v).2.2.1
  rw [hstrip, repad, List.map_append, hback, List.length_map, List.map_replicate, hdigits]
  rfl

theorem urlsafeChar_b64Char_ascii (v : Fin 64) : (urlsafeChar (b64Char v)).val < 128 := by
  revert v
  decide

/-- An encoded text without its padding, padded again, is read back. -/
theorem urlsafeB64decode_repad (b : Bytes) :
    urlsafeB64decode (repad (rstripPad (urlsafeB64encode b))) = .ok b := by
  have hascii : isascii (repad (rstripPad (urlsafeB64encode b))) = true := by
    obtain ⟨digits, hstrip, -, -⟩ := rstripPad_urlsafeB64encode b
    rw [hstrip, repad, isascii_append, Bool.and_eq_true, isascii, isascii, List.all_eq_true,
      List.all_eq_true]
    refine ⟨fun c hc => ?_, fun c hc => ?_⟩
    · obtain ⟨v, -, rfl⟩ := List.mem_map.1 hc
      exact decide_eq_true (urlsafeChar_b64Char_ascii v)
    · rw [List.eq_of_mem_replicate hc]
      rfl
  rw [urlsafeB64decode, (check_ok (u := ())).2 hascii, repad_rstripPad]
  exact a2bBase64_b64encode b

end Py

end AgencyRuntime
