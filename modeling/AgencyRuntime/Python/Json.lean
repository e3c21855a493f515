import AgencyRuntime.Python.Exn

/-!
# JSON values and canonical JSON

What `json.loads` yields and `canonical_json` encodes. An object is the list of its members; the
dictionaries the runtime builds and decodes have distinct names, so a lookup by name is a lookup in
the list. The parts of the Python library whose results the runtime only passes on (SHA-256, the
JSON decoder, date and URL parsing, HMAC) are the fields of a `Platform`: every statement about the
runtime is for all of them.
-/

namespace AgencyRuntime

/-- A JSON value as Python holds it. A float is kept as its `repr`. -/
inductive Json
  | null
  | bool (b : Bool)
  | int (n : Int)
  | float (repr : Str)
  | str (s : Str)
  | arr (items : List Json)
  | obj (fields : List (Str × Json))

/-- A JSON object. -/
abbrev Obj := List (Str × Json)

/-- `payload.get(name)`: `None` for an absent name. -/
def Py.get (o : Obj) (name : String) : Json := (o.lookup (Py.lit name)).getD .null

/-- `dict.update` with new members: an old name keeps its place. -/
def Py.update (o new : Obj) : Obj :=
  o.map (fun m => (m.1, (new.lookup m.1).getD m.2)) ++
    new.filter fun m => (o.lookup m.1).isNone

/-- `json.dumps` of a string with `ensure_ascii=False`: the quote, the backslash and the control
characters are escaped. -/
def jsonEscape (c : CodePoint) : Str :=
  if c.val = 0x22 then Py.lit "\\\""
  else if c.val = 0x5C then Py.lit "\\\\"
  else if c.val = 0x8 then Py.lit "\\b"
  else if c.val = 0x9 then Py.lit "\\t"
  else if c.val = 0xA then Py.lit "\\n"
  else if c.val = 0xC then Py.lit "\\f"
  else if c.val = 0xD then Py.lit "\\r"
  else if c.val < 0x20 then
    Py.lit "\\u00" ++ Py.lit (if c.val < 0x10 then "0" else "1") ++
      [if c.val % 16 < 10 then Fin.ofNat _ (0x30 + c.val % 16) else Fin.ofNat _ (0x57 + c.val % 16)]
  else [c]

def jsonString (s : Str) : Str := Py.lit "\"" ++ s.flatMap jsonEscape ++ Py.lit "\""

/-- Members in the order of `sort_keys`: by code points of the name. -/
def sortFields {α : Type} (fields : List (Str × α)) : List (Str × α) :=
  fields.insertionSort fun a b => a.1 ≤ b.1

mutual

/-- The text of canonical JSON: sorted names, no blanks, nothing escaped that need not be. -/
def canonicalText : Json → Str
  | .null => Py.lit "null"
  | .bool true => Py.lit "true"
  | .bool false => Py.lit "false"
  | .int n => Py.ofInt n
  | .float r => r
  | .str s => jsonString s
  | .arr items => Py.lit "[" ++ Py.join (Py.lit ",") (canonicalTextItems items) ++ Py.lit "]"
  | .obj fields =>
    Py.lit "\x7b" ++ Py.join (Py.lit ",")
      ((sortFields (canonicalTextFields fields)).map fun m => jsonString m.1 ++ Py.lit ":" ++ m.2) ++
      Py.lit "\x7d"

def canonicalTextItems : List Json → List Str
  | [] => []
  | x :: xs => canonicalText x :: canonicalTextItems xs

def canonicalTextFields : List (Str × Json) → List (Str × Str)
  | [] => []
  | (name, x) :: rest => (name, canonicalText x) :: canonicalTextFields rest

end

/-- `sys.get_int_max_str_digits()`: a longer number has no decimal text. -/
def maxStrDigits : Nat := 4300

mutual

/-- Every number of the value can be written in decimal. -/
def Json.renderable : Json → Bool
  | .int n => n.natAbs < 10 ^ maxStrDigits
  | .arr items => renderableItems items
  | .obj fields => renderableFields fields
  | _ => true

def renderableItems : List Json → Bool
  | [] => true
  | x :: xs => x.renderable && renderableItems xs

def renderableFields : List (Str × Json) → Bool
  | [] => true
  | (_, x) :: rest => x.renderable && renderableFields rest

end

/-- `canonical_json` (utils.py). -/
def canonicalJson (j : Json) : Except Exn Str :=
  if j.renderable then .ok (canonicalText j)
  else .error (.valueError "Exceeds the limit for integer string conversion")

/-- An optional text as JSON. -/
def Json.ofOption : Option Str → Json
  | none => .null
  | some s => .str s

/-- What `json.loads` does with a body. Text that is not JSON and text that does not decode raise
subclasses of `ValueError` that the runtime can name; a number past the interpreter's digit limit
raises a plain `ValueError`; nesting past the stack raises `RecursionError`. -/
inductive Loaded
  | value (j : Json)
  | decodeError
  | valueError
  | recursionError

/-- `datetime.fromisoformat`: whether the instant has an offset, and the instant. -/
structure Timestamp where
  aware : Bool
  instant : Int
deriving DecidableEq, Repr

/-- `urllib.parse.urlsplit`, as far as the runtime reads it. -/
structure SplitUrl where
  scheme : Str
  hostname : Option Str
  username : Option Str
  password : Option Str
  fragment : Str
deriving DecidableEq, Repr

/-- A parser that raises `ValueError` on the inputs without a value. -/
def orValueError {α : Type} (x : Option α) (message : String) : Except Exn α :=
  x.elim (.error (.valueError message)) .ok

/-- The parts of the Python library the runtime relies on through their results only. -/
structure Platform where
  /-- `hashlib.sha256(b).hexdigest()` -/
  sha256 : Bytes → Str
  /-- `json.loads` -/
  loads : Bytes → Loaded
  /-- `datetime.fromisoformat`; `none` raises `ValueError` -/
  fromisoformat : Str → Option Timestamp
  /-- `urllib.parse.urlsplit`; `none` raises `ValueError` -/
  urlsplit : Str → Option SplitUrl
  /-- `hmac.new(key, message, hashlib.sha1).digest()` -/
  hmacSha1 : Bytes → Bytes → Bytes

/-- `hashlib.sha256(text.encode("utf-8")).hexdigest()` -/
def Platform.digest (P : Platform) (s : Str) : Except Exn Str := do
  return P.sha256 (← Py.encode s)

/-- `stable_id` (utils.py): a label and the first digits of a digest. -/
def Platform.stableId (P : Platform) (label : String) (values : List Json) (length : Nat) :
    Except Exn Str := do
  return Py.lit label ++ Py.lit "-" ++
    (← P.digest (← canonicalJson (.arr values))).take length

end AgencyRuntime
