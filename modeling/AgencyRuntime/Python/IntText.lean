import AgencyRuntime.Python.Json

/-!
# `int` of an ASCII text

`int` reads more than decimal digits: it strips white space, takes one sign and skips single
underscores between digits. `intOfAscii` is that reading.
-/

namespace AgencyRuntime

namespace Py

/-- The white space `int` strips off an ASCII text: `Py_ISSPACE`. -/
def isSpaceByte (b : UInt8) : Bool := b == 0x20 || (0x09 ≤ b && b ≤ 0x0D)

/-- An ASCII decimal digit. -/
def isDigitByte (b : UInt8) : Bool := 0x30 ≤ b && b ≤ 0x39

/-- The digits of a number, less the single underscores that may stand between two of them. -/
def digitsOf : Bytes → Option Bytes
  | [] => none
  | [b] => if isDigitByte b then some [b] else none
  | b :: c :: rest =>
    if isDigitByte b then
      if c == 0x5F then (digitsOf rest).map (b :: ·) else (digitsOf (c :: rest)).map (b :: ·)
    else none

/-- The number that decimal digits write. -/
def decimal (digits : Bytes) : Nat := digits.foldl (fun n b => 10 * n + (b.toNat - 48)) 0

def stripBytes (b : Bytes) : Bytes :=
  ((b.dropWhile isSpaceByte).reverse.dropWhile isSpaceByte).reverse

/-- `int(value.decode("ascii"))`; `none` where it raises `UnicodeDecodeError` or `ValueError`. -/
def intOfAscii (value : Bytes) : Option Int :=
  if value.all (· < 128) then
    let text := stripBytes value
    let signed := text.head? == some 0x2B || text.head? == some 0x2D
    match digitsOf (if signed then text.drop 1 else text) with
    | none => none
    | some digits =>
      if digits.length ≤ maxStrDigits then
        some (if text.head? == some 0x2D then -(decimal digits : Int) else decimal digits)
      else none
  else none

example : intOfAscii (utf8 (lit " -1_0\t")) = some (-10) := by decide

end Py

end AgencyRuntime
