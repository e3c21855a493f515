import AgencyRuntime.Publication.Intent
import AgencyRuntime.Python.Datetime
import Mathlib.Data.List.MinMax

/-!
# The media stores

`PublicationMediaRecord`, its validation, and `reserve` of both stores (publication_media_store.py,
publication_media_postgres.py). A lookup goes by media ID, by key and by binding at once, so more
than one row may answer it: the PostgreSQL store orders them, the SQLite store takes the row that
the database delivers first (`Delivery`). A digest that is absent is the empty text, which the
stores keep as NULL. Instants are given as `Datetime`.
-/

namespace AgencyRuntime

open Py Tables

/-- `PublicationMediaRecord` -/
structure PublicationMediaRecord where
  mediaId : Str
  tenantId : Str
  runId : Str
  channelId : Str
  contentType : Str
  byteSize : Int
  sha256 : Str
  width : Int
  height : Int
  altText : Str
  rightsAttestedBy : Str
  publicTokenDigest : Str
  publicSigningKeyId : Str
  createdAt : Datetime
  expiresAt : Datetime
  revokedAt : Option Datetime
  idempotencyDigest : Str
  bindingDigest : Str
  revocationReason : Str
deriving DecidableEq

/-- `PublicationMediaReservation` -/
structure PublicationMediaReservation where
  record : PublicationMediaRecord
  created : Bool
  replayed : Bool
deriving DecidableEq

/-- A row of `publication_media_objects`. -/
structure MediaRow where
  record : PublicationMediaRecord
  content : Bytes
deriving DecidableEq

namespace Media

/-- `_MAX_ALT_TEXT_BYTES` -/
def maxAltTextBytes : Nat := 2000

/-- `_MAX_CONTENT_BYTES` -/
def maxContentBytes : Nat := 8 * 1024 * 1024

/-- `validate_publication_media_identity` -/
def validateIdentity (tenantId mediaId : Str) : Except Exn Unit :=
  check (isIdentifier tenantId && isIdentifier mediaId)
    (.valueError "publication media identity is invalid")

/-- `validate_publication_media_record` -/
def validateRecord (P : Platform) (record : PublicationMediaRecord) (content : Bytes) :
    Except Exn Unit := do
  validateIdentity record.tenantId record.mediaId
  check (isIdentifier record.runId) (.valueError "run_id is invalid")
  check (isIdentifier record.rightsAttestedBy) (.valueError "rights_attested_by is invalid")
  check (record.channelId = lit "instagram") (.valueError "publication media channel is invalid")
  check (record.contentType = lit "image/jpeg")
    (.valueError "publication media content type is invalid")
  check (content ≠ [] ∧ content.length ≤ maxContentBytes ∧ record.byteSize = content.length)
    (.valueError "publication media byte size is invalid")
  check (isSha256 record.sha256 ∧ P.sha256 content = record.sha256)
    (.valueError "publication media hash is invalid")
  check (isSha256 record.publicTokenDigest)
    (.valueError "publication media token digest is invalid")
  check (isIdentifier record.publicSigningKeyId)
    (.valueError "publication media signing key identifier is invalid")
  check (∀ digest ∈ [record.idempotencyDigest, record.bindingDigest], digest = [] ∨ isSha256 digest)
    (.valueError "publication media command digest is invalid")
  check (0 < record.width ∧ 0 < record.height)
    (.valueError "publication media dimensions are invalid")
  check (strip record.altText ≠ []) (.valueError "publication media alt text is invalid")
  let encoded ← encode record.altText
  check (encoded.length ≤ maxAltTextBytes) (.valueError "publication media alt text is invalid")
  check (record.createdAt < record.expiresAt) (.valueError "publication media expiry is invalid")

/-! ## The table -/

/-- Equality of two digest columns, which NULL is not equal to. -/
def sameDigest (d e : Str) : Bool := d == e && !d.isEmpty

theorem sameDigest_iff {d e : Str} : sameDigest d e = true ↔ d = e ∧ d ≠ [] := by
  rw [sameDigest, Bool.and_eq_true, beq_iff_eq, Bool.not_eq_true', List.isEmpty_eq_false_iff]

theorem sameDigest_comm (d e : Str) : sameDigest d e = sameDigest e d := by
  rw [Bool.eq_iff_iff, sameDigest_iff, sameDigest_iff]
  constructor
  · rintro ⟨rfl, h⟩
    exact ⟨rfl, h⟩
  · rintro ⟨rfl, h⟩
    exact ⟨rfl, h⟩

/-- The columns of the unique keys. -/
structure MediaKeys where
  mediaId : Str
  publicTokenDigest : Str
  tenantId : Str
  idempotencyDigest : Str
  bindingDigest : Str
  runId : Str
  channelId : Str
  sha256 : Str

/-- `PRIMARY KEY (media_id)`, `UNIQUE (public_token_digest)`, `UNIQUE (tenant_id,
idempotency_digest)`, `UNIQUE (tenant_id, binding_digest)` and `UNIQUE (tenant_id, run_id,
channel_id, sha256)` -/
def MediaKeys.clash (k l : MediaKeys) : Bool :=
  k.mediaId == l.mediaId || k.publicTokenDigest == l.publicTokenDigest ||
    k.tenantId == l.tenantId &&
      (sameDigest k.idempotencyDigest l.idempotencyDigest ||
        sameDigest k.bindingDigest l.bindingDigest ||
          k.runId == l.runId && k.channelId == l.channelId && k.sha256 == l.sha256)

theorem MediaKeys.clash_refl (k : MediaKeys) : k.clash k = true := by
  simp [clash]

theorem MediaKeys.clash_symm (k l : MediaKeys) : k.clash l = l.clash k := by
  simp only [clash, sameDigest_comm k.idempotencyDigest, sameDigest_comm k.bindingDigest, BEq.comm]

def MediaRow.keys (row : MediaRow) : MediaKeys where
  mediaId := row.record.mediaId
  publicTokenDigest := row.record.publicTokenDigest
  tenantId := row.record.tenantId
  idempotencyDigest := row.record.idempotencyDigest
  bindingDigest := row.record.bindingDigest
  runId := row.record.runId
  channelId := row.record.channelId
  sha256 := row.record.sha256

def mediaSchema : Schema MediaRow where
  Key := MediaKeys
  key := MediaRow.keys
  clash := MediaKeys.clash
  refl := MediaKeys.clash_refl
  symm := MediaKeys.clash_symm

/-- `publication_media_objects` -/
abbrev MediaTable := Table mediaSchema

/-- `tenant_id = ? AND idempotency_digest = ?` -/
def hasKey (record : PublicationMediaRecord) (row : MediaRow) : Bool :=
  row.record.tenantId == record.tenantId &&
    sameDigest row.record.idempotencyDigest record.idempotencyDigest

/-- `tenant_id = ? AND binding_digest = ?` -/
def hasBinding (record : PublicationMediaRecord) (row : MediaRow) : Bool :=
  row.record.tenantId == record.tenantId && sameDigest row.record.bindingDigest record.bindingDigest

/-- The condition of the lookup of `reserve`. -/
def answers (record : PublicationMediaRecord) (row : MediaRow) : Bool :=
  row.record.mediaId == record.mediaId || hasKey record row || hasBinding record row

def keyConflict : Exn :=
  .publicationMediaConflict "publication media idempotency key conflicts with prior input"

def bytesConflict : Exn :=
  .publicationMediaConflict "publication media bytes conflict with durable binding"

def storeConflict : Exn :=
  .publicationMediaConflict "publication media conflicts with existing durable state"

/-! ## SQLite -/

/-- Which row of an unordered query the database delivers first. -/
structure Delivery where
  first : List MediaRow → Option MediaRow
  mem_of_first : ∀ {rows : List MediaRow} {row : MediaRow}, first rows = some row → row ∈ rows
  eq_nil_of_first : ∀ {rows : List MediaRow}, first rows = none → rows = []

namespace Sqlite

/-- `_find_existing` -/
def findExisting (d : Delivery) (record : PublicationMediaRecord) (t : MediaTable) :
    Option PublicationMediaRecord :=
  (d.first (t.rows.filter (answers record))).map MediaRow.record

/-- `_content_for` -/
def contentFor (mediaId : Str) (t : MediaTable) : Except Exn Bytes :=
  match t.rows.find? fun row => row.record.mediaId == mediaId with
  | some row => .ok row.content
  | none => .error (.keyError "publication media not found")

/-- `_insert`; `none` is `sqlite3.IntegrityError`. An integer of SQLite has 64 bits, and a text has
to have an encoding. -/
def insert (record : PublicationMediaRecord) (content : Bytes) (t : MediaTable) :
    Except Exn (Option MediaTable) := do
  check (record.width < 2 ^ 63 ∧ record.height < 2 ^ 63) .overflowError
  let _ ← encode record.revocationReason
  return t.insert ⟨record, content⟩

/-- `SQLitePublicationMediaStore.reserve`, in a transaction that is rolled back when it raises. -/
def reserve (P : Platform) (d : Delivery) (record : PublicationMediaRecord) (content : Bytes)
    (t : MediaTable) : Except Exn (PublicationMediaReservation × MediaTable) := do
  validateRecord P record content
  match findExisting d record t with
  | some existing =>
    check (existing.bindingDigest = record.bindingDigest) keyConflict
    let storedContent ← contentFor existing.mediaId t
    check (storedContent = content) bytesConflict
    return (⟨existing, false, true⟩, t)
  | none =>
    match ← insert record content t with
    | some t' => return (⟨record, true, false⟩, t')
    | none =>
      match findExisting d record t with
      | none => .error storeConflict
      | some existing =>
        check (existing.bindingDigest = record.bindingDigest) storeConflict
        let storedContent ← contentFor existing.mediaId t
        check (storedContent = content) bytesConflict
        return (⟨existing, false, true⟩, t)

end Sqlite

/-! ## PostgreSQL -/

namespace Postgres

/-- `ORDER BY CASE … END` -/
def rank (record : PublicationMediaRecord) (row : MediaRow) : Nat :=
  if hasKey record row then 0 else if hasBinding record row then 1 else 2

/-- `SELECT … ORDER BY … LIMIT 1 FOR UPDATE` -/
def findExisting (record : PublicationMediaRecord) (t : MediaTable) : Option MediaRow :=
  (t.rows.filter (answers record)).argmin (rank record)

/-- What the types and checks of the columns ask of a record: bounded dimensions, and texts that
have an encoding and no NUL. -/
def storable (record : PublicationMediaRecord) : Bool :=
  320 ≤ record.width && record.width ≤ 1440 && 320 ≤ record.height && record.height ≤ 1440 &&
    encodable record.revocationReason && !record.revocationReason.contains 0 &&
      !record.altText.contains 0

/-- `_insert`; `none` is any exception of the database. -/
def insert (record : PublicationMediaRecord) (content : Bytes) (t : MediaTable) :
    Option MediaTable :=
  if storable record then t.insert ⟨record, content⟩ else none

/-- `PostgresPublicationMediaStore.reserve`, in a transaction that is rolled back when it raises. -/
def reserve (P : Platform) (record : PublicationMediaRecord) (content : Bytes) (t : MediaTable) :
    Except Exn (PublicationMediaReservation × MediaTable) := do
  validateRecord P record content
  match findExisting record t with
  | some existing =>
    check (existing.record.bindingDigest = record.bindingDigest) keyConflict
    check (existing.content = content) bytesConflict
    return (⟨existing.record, false, true⟩, t)
  | none =>
    match insert record content t with
    | some t' => return (⟨record, true, false⟩, t')
    | none => .error storeConflict

end Postgres

end Media

end AgencyRuntime
