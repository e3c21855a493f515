import AgencyRuntime.Python.Json

/-!
# The JSON decoder

`json.loads` of a `str`: the grammar the C scanner accepts, `NaN` and the infinities included. The
sequence reader and the value reader recurse on a bound that the text itself provides: a sequence
has no more items than the text has characters, and values nest no deeper. What the decoder makes of
a number with a fraction or an exponent is the `repr` of a float, which is a parameter
(`Floats`).
-/

namespace AgencyRuntime

/-- One character of a source literal. -/
def ch (c : Char) : CodePoint := Fin.ofNat _ c.toNat

/-- An ASCII digit. -/
def isDecimal (c : CodePoint) : Bool := Py.inRange '0' '9' c

/-- The text of a JSON number. -/
structure NumberText where
  negative : Bool
  whole : Str
  fraction : Option Str
  exponent : Option (CodePoint × Option CodePoint × Str)

namespace NumberText

/-- The text, put together. -/
def render (t : NumberText) : Str :=
  (if t.negative then [ch '-'] else []) ++ t.whole ++
    t.fraction.elim [] (fun digits => ch '.' :: digits) ++
    t.exponent.elim [] fun e => e.1 :: (e.2.1.toList ++ e.2.2)

/-- Nonempty digits. -/
def Digits (s : Str) : Prop := s ≠ [] ∧ ∀ c ∈ s, isDecimal c = true

/-- What the grammar asks of the parts: no leading zero, and digits where there are any. -/
structure Valid (t : NumberText) : Prop where
  whole : t.whole = [ch '0'] ∨ ∃ c cs, t.whole = c :: cs ∧ c ≠ ch '0' ∧ Digits t.whole
  fraction : ∀ digits ∈ t.fraction, Digits digits
  exponent : ∀ e ∈ t.exponent, (e.1 = ch 'e' ∨ e.1 = ch 'E') ∧
    (∀ s ∈ e.2.1, s = ch '+' ∨ s = ch '-') ∧ Digits e.2.2

/-- A number with a fraction or an exponent is a float. -/
def isFloat (t : NumberText) : Bool := t.fraction.isSome || t.exponent.isSome

end NumberText

/-- The names of the floats that are no numbers. -/
def specialFloats : List Str := [Py.lit "NaN", Py.lit "Infinity", Py.lit "-Infinity"]

/-- A text that `json.dumps` writes for a float, `text` being `repr(float(literal))`. -/
def IsFloatText (text : Str → Str) (r : Str) : Prop :=
  r ∈ specialFloats ∨ ∃ t : NumberText, t.Valid ∧ t.isFloat = true ∧ r = t.render ∧ text r = r

/-- The float format: the text `json.dumps` writes for the float of a literal. What it writes reads
back as the same float. -/
structure Floats where
  text : Str → Str
  isFloatText : ∀ t : NumberText, t.Valid → IsFloatText text (text t.render)

theorem isFloatText_nan : ∀ t : NumberText, t.Valid →
    IsFloatText (fun _ => Py.lit "NaN") (Py.lit "NaN") :=
  fun _ _ => .inl (.head _)

/-! ## The scanner -/

/-- `json.JSONDecodeError` -/
def decodeError : Exn := .valueError "JSONDecodeError"

/-- Skip `" \t\n\r"`. -/
def skipBlank (s : Str) : Str := s.dropWhile fun c => c.val = 32 || c.val = 9 || c.val = 10 || c.val = 13

/-- The value of a hexadecimal digit. -/
def hexValue (c : CodePoint) : Option Nat :=
  if Py.inRange '0' '9' c then some (c.val - 48)
  else if Py.inRange 'a' 'f' c then some (c.val - 87)
  else if Py.inRange 'A' 'F' c then some (c.val - 55)
  else none

/-- The value of four hexadecimal digits. -/
def hex4 (a b c d : CodePoint) : Option Nat := do
  return ((← hexValue a) * 16 + (← hexValue b)) * 256 + (← hexValue c) * 16 + (← hexValue d)

/-- The character after a backslash. -/
def unescape (c : CodePoint) : Option CodePoint :=
  if c = ch '"' then some (ch '"')
  else if c = ch '\\' then some (ch '\\')
  else if c = ch '/' then some (ch '/')
  else if c = ch 'b' then some 8
  else if c = ch 'f' then some 12
  else if c = ch 'n' then some 10
  else if c = ch 'r' then some 13
  else if c = ch 't' then some 9
  else none

/-- Two escapes that form a surrogate pair are one character. -/
def joinPair (high low : Nat) : Option CodePoint :=
  if 0xD800 ≤ high ∧ high ≤ 0xDBFF ∧ 0xDC00 ≤ low ∧ low ≤ 0xDFFF then
    some (Fin.ofNat _ (0x10000 + (high - 0xD800) * 1024 + (low - 0xDC00)))
  else none

/-- `scanstring`, after the opening quote, with `strict`. -/
def scanString : Str → Except Exn (Str × Str)
  | [] => .error decodeError
  | c :: s =>
    if c = ch '"' then .ok ([], s)
    else if c = ch '\\' then
      match s with
      | [] => .error decodeError
      | e :: s =>
        if e = ch 'u' then
          match s with
          | a :: b :: c :: d :: s =>
            match hex4 a b c d, s with
            | none, _ => .error decodeError
            | some high, b₀ :: b₁ :: a' :: b' :: c' :: d' :: s' =>
              match if b₀ = ch '\\' ∧ b₁ = ch 'u' then (hex4 a' b' c' d').bind (joinPair high)
                else none with
              | some joined => do
                let (text, rest) ← scanString s'
                return (joined :: text, rest)
              | none => do
                let (text, rest) ← scanString (b₀ :: b₁ :: a' :: b' :: c' :: d' :: s')
                return (Fin.ofNat _ high :: text, rest)
            | some code, s => do
              let (text, rest) ← scanString s
              return (Fin.ofNat _ code :: text, rest)
          | _ => .error decodeError
        else
          match unescape e with
          | none => .error decodeError
          | some x => do
            let (text, rest) ← scanString s
            return (x :: text, rest)
    else if c.val < 0x20 then .error decodeError
    else do
      let (text, rest) ← scanString s
      return (c :: text, rest)

/-- The integer part of a number: a zero alone, or digits that do not start with one. -/
def scanWhole : Str → Option (Str × Str)
  | [] => none
  | c :: s =>
    if c = ch '0' then some ([c], s)
    else if isDecimal c then some ((c :: s).span isDecimal)
    else none

/-- The digits that follow, if there are any. -/
def scanDigits (s : Str) : Option (Str × Str) :=
  match s.span isDecimal with
  | ([], _) => none
  | r => some r

/-- A fraction, if one follows. -/
def scanFraction : Str → Option Str × Str
  | [] => (none, [])
  | c :: s =>
    if c = ch '.' then
      match scanDigits s with
      | some (digits, rest) => (some digits, rest)
      | none => (none, c :: s)
    else (none, c :: s)

/-- The sign of an exponent. -/
def scanSign : Str → Option CodePoint × Str
  | [] => (none, [])
  | c :: s => if c = ch '+' ∨ c = ch '-' then (some c, s) else (none, c :: s)

/-- An exponent, if one follows. -/
def scanExponent : Str → Option (CodePoint × Option CodePoint × Str) × Str
  | [] => (none, [])
  | c :: s =>
    if c = ch 'e' ∨ c = ch 'E' then
      match scanDigits (scanSign s).2 with
      | some (digits, rest) => (some (c, (scanSign s).1, digits), rest)
      | none => (none, c :: s)
    else (none, c :: s)

/-- A number after its sign. -/
def scanUnsigned (negative : Bool) (s : Str) : Option (NumberText × Str) :=
  (scanWhole s).map fun w =>
    let f := scanFraction w.2
    let e := scanExponent f.2
    (⟨negative, w.1, f.1, e.1⟩, e.2)

/-- `_match_number_unicode` -/
def scanNumber : Str → Option (NumberText × Str)
  | [] => none
  | c :: s => if c = ch '-' then scanUnsigned true s else scanUnsigned false (c :: s)

/-- The value of decimal digits. -/
def decimalValue (digits : Str) : Nat := digits.foldl (fun n c => 10 * n + (c.val - 48)) 0

/-- The value of a number text: an `int`, which the interpreter limits in length, or a `float`. -/
def NumberText.value (F : Floats) (t : NumberText) : Except Exn Json :=
  if t.isFloat then .ok (.float (F.text t.render))
  else if t.whole.length ≤ maxStrDigits then
    .ok (.int (if t.negative then -(decimalValue t.whole : Int) else decimalValue t.whole))
  else .error (.valueError "Exceeds the limit for integer string conversion")

/-- Items with commas between them, up to the closing bracket. `bound` limits their number. -/
def scanSequence {α : Type} (close : CodePoint) (item : Str → Except Exn (α × Str)) :
    (bound : Nat) → Str → Except Exn (List α × Str)
  | 0, _ => .error decodeError
  | bound + 1, s => do
    let (x, rest) ← item s
    match skipBlank rest with
    | [] => .error decodeError
    | c :: rest =>
      if c = close then .ok ([x], rest)
      else if c = ch ',' then do
        let (xs, rest) ← scanSequence close item bound (skipBlank rest)
        return (x :: xs, rest)
      else .error decodeError

/-- A bracketed sequence after its opening bracket. -/
def scanBracket {α : Type} (close : CodePoint) (item : Str → Except Exn (α × Str)) (s : Str) :
    Except Exn (List α × Str) :=
  match skipBlank s with
  | [] => .error decodeError
  | c :: rest =>
    if c = close then .ok ([], rest) else scanSequence close item s.length (c :: rest)

/-- A member of an object. -/
def scanMember (value : Str → Except Exn (Json × Str)) : Str → Except Exn ((Str × Json) × Str)
  | [] => .error decodeError
  | c :: s =>
    if c = ch '"' then do
      let (name, rest) ← scanString s
      match skipBlank rest with
      | [] => .error decodeError
      | d :: rest =>
        if d = ch ':' then do
          let (x, rest) ← value (skipBlank rest)
          return ((name, x), rest)
        else .error decodeError
    else .error decodeError

/-- Put a member into a dictionary: an old name keeps its place. -/
def setMember {α : Type} (d : List (Str × α)) (m : Str × α) : List (Str × α) :=
  if m.1 ∈ d.map Prod.fst then d.map fun e => if e.1 = m.1 then m else e else d ++ [m]

/-- `dict(pairs)` -/
def dictOf {α : Type} (pairs : List (Str × α)) : List (Str × α) := pairs.foldl setMember []

/-- The constants of the grammar, with the floats that are no numbers. -/
def constants : List (Str × Json) :=
  [
    (Py.lit "null", .null), (Py.lit "true", .bool true), (Py.lit "false", .bool false),
    (Py.lit "NaN", .float (Py.lit "NaN")), (Py.lit "Infinity", .float (Py.lit "Infinity")),
    (Py.lit "-Infinity", .float (Py.lit "-Infinity"))]

/-- A constant, or a number. -/
def scanScalar (F : Floats) (s : Str) : Except Exn (Json × Str) :=
  match constants.find? fun k => k.1.isPrefixOf s with
  | some k => .ok (k.2, s.drop k.1.length)
  | none =>
    match scanNumber s with
    | none => .error decodeError
    | some (t, rest) => do return (← t.value F, rest)

/-- A value, nested no deeper than `depth`. -/
def scanValue (F : Floats) : (depth : Nat) → Str → Except Exn (Json × Str)
  | 0, _ => .error decodeError
  | _, [] => .error decodeError
  | depth + 1, c :: s =>
    if c = ch '"' then do
      let (text, rest) ← scanString s
      return (.str text, rest)
    else if c = ch '[' then do
      let (items, rest) ← scanBracket (ch ']') (scanValue F depth) s
      return (.arr items, rest)
    else if c = ch '\x7b' then do
      let (members, rest) ← scanBracket (ch '\x7d') (scanMember (scanValue F depth)) s
      return (.obj (dictOf members), rest)
    else scanScalar F (c :: s)

/-- `json.loads` of a text -/
def jsonLoads (F : Floats) (s : Str) : Except Exn Json := do
  let (x, rest) ← scanValue F s.length (skipBlank s)
  if skipBlank rest = [] then .ok x else .error decodeError

end AgencyRuntime
