import Mathlib.Data.Rat.Floor

/-!
# `float` arithmetic

A finite `float` is given by its value, a rational. Each operation rounds its exact result to the
nearest double, ties to the even one; `round(x, n)` rounds to a decimal, ties to the even one, and
then to the nearest double.
-/

namespace AgencyRuntime

namespace Py

/-- The nearest integer, ties to the even one. -/
def roundEven (q : ℚ) : ℤ :=
  let low := q.floor
  if q - low < 1 / 2 then low
  else if 1 / 2 < q - low then low + 1
  else if low % 2 = 0 then low
  else low + 1

/-- `2 ** e` -/
def powTwo (e : ℤ) : ℚ := if 0 ≤ e then ((2 ^ e.toNat : ℕ) : ℚ) else 1 / ((2 ^ (-e).toNat : ℕ) : ℚ)

/-- The exponent of the binade of a positive number. -/
def binade (q : ℚ) : ℤ :=
  let e : ℤ := (Nat.log2 q.num.toNat : ℤ) - Nat.log2 q.den
  if q < powTwo e then e - 1 else e

/-- The nearest double of a number below `2 ** 1024`. -/
def toDouble (q : ℚ) : ℚ :=
  if q = 0 then 0
  else
    let ulp := powTwo (max (binade |q|) (-1022) - 52)
    roundEven (q / ulp) * ulp

/-- `round(x, digits)` -/
def roundTo (digits : ℕ) (q : ℚ) : ℚ :=
  toDouble ((roundEven (q * (10 ^ digits : ℕ)) : ℚ) / (10 ^ digits : ℕ))

/-- `0.1 + 0.2` -/
example : toDouble (toDouble (1 / 10) + toDouble (2 / 10)) = 1351079888211149 / 4503599627370496 := by
  decide +kernel

end Py

end AgencyRuntime
