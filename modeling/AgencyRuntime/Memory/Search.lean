import AgencyRuntime.Python.Float
import AgencyRuntime.Python.Json
import AgencyRuntime.Tables.Like
import Mathlib.Data.List.TakeWhile
import Mathlib.Data.Prod.Lex

/-!
# Memory search

`SQLiteMemory.search` (memory.py) and `PostgresMemory.search` (postgres.py). Both put each token of
the query into a `LIKE` pattern, take the first `limit` rows by confidence, and order these by a
score. A row holds what `store` was given: its tags are in the file as the text of a JSON list.
-/

namespace AgencyRuntime.Memory

open Py (lit)
open Tables

/-! ## Letter case -/

def isCapital (c : CodePoint) : Bool := Py.inRange 'A' 'Z' c

def asciiLowerChar (c : CodePoint) : CodePoint := if isCapital c then Fin.ofNat _ (c.val + 32) else c

/-- `lower(…)` of SQLite. -/
def asciiLower (s : Str) : Str := s.map asciiLowerChar

/-- The case mappings that the searches take from outside: those of the Unicode data of Python and
of the collation of a PostgreSQL database. -/
structure Casing where
  /-- `str.lower` -/
  lower : Str → Str
  /-- What `ILIKE` does to the text and to the pattern. -/
  ilike : Str → Str

/-- Only capitals of ASCII have another lower case. -/
def Casing.Plain (C : Casing) (s : Str) : Prop := ∀ c ∈ s, C.lower [c] = [asciiLowerChar c]

/-- What is documented of the mappings. -/
structure Casing.Lawful (C : Casing) : Prop where
  ascii : ∀ c : CodePoint, c.val < 128 → C.lower [c] = [asciiLowerChar c]
  lower : ∀ s, C.Plain s → C.lower s = asciiLower s
  lowered : ∀ s, ∀ c ∈ C.lower s, C.lower [c] = [c]
  ilike : ∀ s, C.Plain s → C.ilike s = asciiLower s

/-! ## The query -/

/-- `str.split`, with the word that has begun. -/
def words : Str → Str → List Str
  | word, [] => if word = [] then [] else [word]
  | word, c :: s =>
    if Py.isSpace c then
      if word = [] then words [] s else word :: words [] s
    else words (word ++ [c]) s

/-- `tuple(dict.fromkeys(token for token in query.lower().split() if token.strip()))` -/
def tokensOf (C : Casing) (query : Str) : List Str :=
  ((words [] (C.lower query)).filter fun t => Py.strip t ≠ []).eraseDups

/-- `"%{}%".format(token)` -/
def wildcard (token : Str) : Str := lit "%" ++ (token ++ lit "%")

/-- A character of a pattern. -/
def wild (c : CodePoint) : Wild CodePoint :=
  if c.val = 0x25 then .many else if c.val = 0x5F then .one else .char c

/-! ## Rows -/

/-- `MemoryRecord` -/
structure MemoryRecord (τ : Type) where
  memoryId : Str
  content : Str
  provenance : Json
  confidence : ℚ
  tags : List Str
  observedAt : τ
  storedAt : τ

/-- A row of `memories`. -/
structure MemoryRow (τ : Type) extends MemoryRecord τ where
  owner : Str
  observationId : Str

/-- `MemorySearchResult` -/
structure MemorySearchResult (τ : Type) where
  record : MemoryRecord τ
  score : ℚ

variable {τ : Type}

/-- `text.find(part) >= 0`, as `part in text` -/
def isIn (part text : Str) : Bool := text.tails.any part.isPrefixOf

/-- The score of a record. -/
def scoreOf (C : Casing) (tokens : List Str) (record : MemoryRecord τ) : ℚ :=
  let content := C.lower record.content
  let matched := tokens.countP fun t => isIn t content || record.tags.contains t
  let bonus := if tokens.any record.tags.contains then Py.toDouble (1 / 10) else 0
  let share := Py.toDouble (Py.toDouble (matched / tokens.length) * Py.toDouble (35 / 100))
  let base := Py.toDouble (record.confidence * Py.toDouble (55 / 100))
  Py.roundTo 4 (min 1 (Py.toDouble (Py.toDouble (base + share) + bonus)))

section
variable [LinearOrder τ]

/-- `ORDER BY confidence DESC, stored_at DESC, memory_id ASC` -/
def rowKey (row : MemoryRow τ) : ℚᵒᵈ ×ₗ τᵒᵈ ×ₗ Str :=
  toLex (OrderDual.toDual row.confidence, toLex (OrderDual.toDual row.storedAt, row.memoryId))

/-- `(-item.score, item.record.memory_id)` -/
def resultKey (item : MemorySearchResult τ) : ℚ ×ₗ Str := toLex (-item.score, item.record.memoryId)

/-- The rows of the `SELECT`, where `selects` is the clause for one token. -/
def selectRows (selects : Str → MemoryRow τ → Bool) (owner : Str) (minConfidence : ℚ)
    (tokens : List Str) (limit : ℕ) (rows : List (MemoryRow τ)) : List (MemoryRow τ) :=
  ((rows.filter fun row =>
    row.owner = owner && minConfidence ≤ row.confidence && tokens.all (selects · row)).insertionSort
      fun r s => rowKey r ≤ rowKey s).take limit

/-- The body that the two searches share: `bind` is the binding of texts to the statement, and
`fault` what the statement raises (a lost connection, a statement past the limits of the database). -/
def search (C : Casing) (bind : List Str → Except Exn Unit) (selects : Str → MemoryRow τ → Bool)
    (owner : Str) (rows : List (MemoryRow τ)) (fault : Option Exn) (query : Str) (limit : ℤ)
    (minConfidence : ℚ) : Except Exn (List (MemorySearchResult τ)) := do
  check (0 ≤ minConfidence ∧ minConfidence ≤ 1)
    (.valueError "confidence must be between 0.0 and 1.0")
  check (1 ≤ limit ∧ limit ≤ 100) (.valueError "limit must be between 1 and 100")
  let tokens := tokensOf C query
  check (tokens ≠ []) (.valueError "query must not be empty")
  bind (owner :: tokens.map wildcard)
  fault.elim (.ok ()) .error
  let found := selectRows selects owner minConfidence tokens limit.toNat rows
  return (found.map fun row => ⟨row.toMemoryRecord, scoreOf C tokens row.toMemoryRecord⟩).insertionSort
    fun x y => resultKey x ≤ resultKey y

end

namespace Sqlite

/-- The C text that `LIKE` reads ends at a NUL. -/
def untilNul (s : Str) : Str := s.takeWhile fun c => c.val ≠ 0

/-- `text LIKE pattern`, which ignores the case of ASCII letters. -/
def matchesLike (pattern text : Str) : Bool :=
  like ((untilNul (asciiLower pattern)).map wild) (untilNul (asciiLower text))

/-- `(lower(content) LIKE ? OR lower(tags_json) LIKE ?)` -/
def selects (token : Str) (row : MemoryRow τ) : Bool :=
  matchesLike (wildcard token) (asciiLower row.content) ||
    matchesLike (wildcard token) (asciiLower (canonicalText (.arr (row.tags.map .str))))

def bind (texts : List Str) : Except Exn Unit :=
  check (texts.all Py.encodable) .unicodeEncodeError

/-- `SQLiteMemory.search` -/
def search [LinearOrder τ] (C : Casing) (owner : Str) (rows : List (MemoryRow τ))
    (fault : Option Exn) (query : Str) (limit : ℤ) (minConfidence : ℚ) :
    Except Exn (List (MemorySearchResult τ)) :=
  Memory.search C bind selects owner rows fault query limit minConfidence

end Sqlite

namespace Postgres

/-- The elements of a pattern; a backslash takes the next character as it is. -/
def pattern : Str → List (Wild CodePoint)
  | [] => []
  | [c] => [wild c]
  | c :: d :: s => if c.val = 0x5C then .char d :: pattern s else wild c :: pattern (d :: s)

/-- `text ILIKE pattern` -/
def matchesIlike (C : Casing) (p text : Str) : Bool := like (pattern (C.ilike p)) (C.ilike text)

/-- `tags_json::text` -/
def tagsText (tags : List Str) : Str :=
  lit "[" ++ (Py.join (lit ", ") (tags.map jsonString) ++ lit "]")

/-- `(content ILIKE %s OR tags_json::text ILIKE %s)` -/
def selects (C : Casing) (token : Str) (row : MemoryRow τ) : Bool :=
  matchesIlike C (wildcard token) row.content || matchesIlike C (wildcard token) (tagsText row.tags)

def bind (texts : List Str) : Except Exn Unit := do
  check (texts.all Py.encodable) .unicodeEncodeError
  check (texts.all fun s => !s.contains 0)
    (.databaseError "PostgreSQL text fields cannot contain NUL (0x00) bytes")

/-- `PostgresMemory.search` -/
def search [LinearOrder τ] (C : Casing) (owner : Str) (rows : List (MemoryRow τ))
    (fault : Option Exn) (query : Str) (limit : ℤ) (minConfidence : ℚ) :
    Except Exn (List (MemorySearchResult τ)) :=
  Memory.search C bind (selects C) owner rows fault query limit minConfidence

end Postgres

end AgencyRuntime.Memory
