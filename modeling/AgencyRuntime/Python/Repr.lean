import AgencyRuntime.Python.Json

/-!
# The text of a JSON value

`str(value)` and `repr(value)` for what `json.loads` yields. Which characters `repr` prints is a
table of the interpreter's Unicode database, in which no surrogate is printable.
-/

namespace AgencyRuntime

/-- A platform with the part of the Unicode database that `repr` consults. -/
structure Interpreter extends Platform where
  /-- `str.isprintable` of one character -/
  isprintable : CodePoint → Bool
  surrogate : ∀ c, Py.isSurrogate c = true → isprintable c = false

namespace Py

theorem not_isSurrogate : ∀ c, isSurrogate c = true → (!isSurrogate c) = false :=
  fun c h => by simp [h]

/-- One lower-case hexadecimal digit. -/
def hexLower (n : Nat) : CodePoint :=
  if n < 10 then Fin.ofNat _ (0x30 + n) else Fin.ofNat _ (0x57 + n)

/-- The last `width` hexadecimal digits of a number. -/
def hexDigits : Nat → Nat → Str
  | 0, _ => []
  | width + 1, n => hexDigits width (n / 16) ++ [hexLower (n % 16)]

/-- One character of `repr` of a text in the given quote. -/
def reprChar (I : Interpreter) (quote c : CodePoint) : Str :=
  if c = quote ∨ c.val = 0x5C then lit "\\" ++ [c]
  else if c.val = 0x9 then lit "\\t"
  else if c.val = 0xA then lit "\\n"
  else if c.val = 0xD then lit "\\r"
  else if c.val < 0x20 ∨ c.val = 0x7F then lit "\\x" ++ hexDigits 2 c.val
  else if c.val < 0x7F then [c]
  else if I.isprintable c then [c]
  else if c.val < 0x100 then lit "\\x" ++ hexDigits 2 c.val
  else if c.val < 0x10000 then lit "\\u" ++ hexDigits 4 c.val
  else lit "\\U" ++ hexDigits 8 c.val

/-- The quote `repr` chooses: the double one only for a text with single ones alone. -/
def reprQuote (s : Str) : CodePoint :=
  if s.any (oneOf "'") && !s.any (oneOf "\"") then Fin.ofNat _ 0x22 else Fin.ofNat _ 0x27

/-- `repr` of a text. -/
def reprStr (I : Interpreter) (s : Str) : Str :=
  [reprQuote s] ++ s.flatMap (reprChar I (reprQuote s)) ++ [reprQuote s]

mutual

/-- `repr(value)`; a decoded number is within the digit limit. -/
def repr (I : Interpreter) : Json → Str
  | .null => lit "None"
  | .bool true => lit "True"
  | .bool false => lit "False"
  | .int n => ofInt n
  | .float r => r
  | .str s => reprStr I s
  | .arr items => lit "[" ++ join (lit ", ") (reprItems I items) ++ lit "]"
  | .obj fields => lit "\x7b" ++ join (lit ", ") (reprFields I fields) ++ lit "\x7d"

def reprItems (I : Interpreter) : List Json → List Str
  | [] => []
  | x :: xs => repr I x :: reprItems I xs

def reprFields (I : Interpreter) : Obj → List Str
  | [] => []
  | (name, x) :: rest => (reprStr I name ++ lit ": " ++ repr I x) :: reprFields I rest

end

/-- `str(value)` -/
def str (I : Interpreter) : Json → Str
  | .str s => s
  | j => repr I j

end Py

/-- `bool(value)` -/
def Json.truthy : Json → Bool
  | .null => false
  | .bool b => b
  | .int n => n ≠ 0
  | .float r => r ≠ Py.lit "0.0" ∧ r ≠ Py.lit "-0.0"
  | .str s => !s.isEmpty
  | .arr items => !items.isEmpty
  | .obj fields => !fields.isEmpty

end AgencyRuntime
