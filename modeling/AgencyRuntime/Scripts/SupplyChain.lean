import AgencyRuntime.Python.Float
import AgencyRuntime.Python.Records
import AgencyRuntime.Scripts.TaskGraph
import AgencyRuntime.Tables.Dictionary

/-!
# The supply-chain gate

`evaluate-supply-chain.py` on decoded JSON documents: `evaluate_vulnerabilities` compares a scanner
report with a baseline, and `evaluate_licenses` a bill of materials with a policy. Each returns a
summary and a list of errors.
-/

namespace AgencyRuntime.Scripts

open Py (lit)
open Tables (ofPairs)

/-! ## Reading JSON values -/

/-- `value.get` and `value["…"]`, which other values than objects do not have. -/
def objOf : Json → Except Exn Obj
  | .obj fields => .ok fields
  | _ => .error (.typeError "object has no members")

/-- Iteration: an array yields its items, a text its characters, an object its names. -/
def iterate : Json → Except Exn (List Json)
  | .arr items => .ok items
  | .str s => .ok (s.map fun c => .str [c])
  | .obj fields => .ok (fields.map fun m => .str m.1)
  | _ => .error (.typeError "object is not iterable")

/-- A value that is looked up in a set has a hash. -/
def hashable : Json → Except Exn Unit
  | .arr _ | .obj _ => .error (.typeError "unhashable type")
  | _ => .ok ()

/-- `value == "…"` -/
def isText (s : Str) : Json → Bool
  | .str t => t == s
  | _ => false

/-- The number that a value equals. -/
def numberOf : Json → Option ℚ
  | .bool b => some (if b then 1 else 0)
  | .int n => some n
  | .float r => (scanNumber r).map fun t =>
    let digits := t.1.whole ++ t.1.fraction.getD []
    let exponent : ℤ := t.1.exponent.elim 0 fun e =>
      if e.2.1 = some (ch '-') then -decimalValue e.2.2 else decimalValue e.2.2
    let value := (decimalValue digits : ℚ) * 10 ^ (exponent - (t.1.fraction.getD []).length)
    Py.toDouble (if t.1.negative then -value else value)
  | _ => none

/-- `==` of two values with hashes. -/
def same : Json → Json → Bool
  | .null, .null => true
  | .str s, .str t => s == t
  | .float r, .float t => r == t || ((numberOf (.float r)).isSome && numberOf (.float r) == numberOf (.float t))
  | x, y => (numberOf x).isSome && numberOf x == numberOf y

/-- The texts of a `Counter`, sorted, with their numbers. -/
def counter (texts : List Str) : List (Str × ℕ) := (sorted texts).map fun s => (s, texts.count s)

section
variable (I : Interpreter)

/-! ## Licences of a component -/

/-- `package_type`, from an item of the properties on. -/
def packageTypeOf : List Json → Except Exn Json
  | [] => .ok .null
  | item :: items => do
    let item ← objOf item
    if isText (lit "syft:package:type") (Py.get item "name") then return Py.get item "value"
    packageTypeOf items

/-- `package_type` -/
def packageType (component : Obj) : Except Exn Json := do
  packageTypeOf (← iterate (Py.getOr component "properties" (.arr [])))

/-- `if value: values.append(str(value))` -/
def textIf (value : Json) : List Str := if value.truthy then [Py.str I value] else []

/-- The values that `component_licenses` takes from an item. -/
def licenseTexts : Json → List Str
  | .obj item =>
    (match Py.get item "license" with
      | .obj license =>
        textIf I (if (Py.get license "id").truthy then Py.get license "id" else Py.get license "name")
      | _ => []) ++
    textIf I (Py.get item "expression")
  | _ => []

/-- `component_licenses` -/
def componentLicenses (component : Obj) : Except Exn (List Str) := do
  let items ← iterate (Py.getOr component "licenses" (.arr []))
  return sorted (items.flatMap (licenseTexts I))

/-! ## Vulnerabilities -/

/-- `FindingKey` -/
structure FindingKey where
  packageType : Str
  package : Str
  version : Str
  vulnerability : Str
  severity : Str
deriving DecidableEq

/-- The parts, which a sort compares. -/
def FindingKey.parts (key : FindingKey) : List Str :=
  [key.packageType, key.package, key.version, key.vulnerability, key.severity]

/-- `sorted(…)` of keys. -/
def sortedKeys (keys : List FindingKey) : List FindingKey :=
  keys.insertionSort fun a b => a.parts ≤ b.parts

/-- `finding_key` -/
def findingKey (item : Obj) : Except Exn FindingKey := do
  let artifact ← objOf (← Py.item item "artifact")
  let vulnerability ← objOf (← Py.item item "vulnerability")
  return {
    packageType := strOr I artifact "type" ""
    package := strOr I artifact "name" ""
    version := strOr I artifact "version" ""
    vulnerability := strOr I vulnerability "id" ""
    severity := strOr I vulnerability "severity" "" }

/-- `baseline_key` -/
def baselineKey (item : Obj) : Except Exn FindingKey := do
  return {
    packageType := ← strItem I item "package_type"
    package := ← strItem I item "package"
    version := ← strItem I item "version"
    vulnerability := ← strItem I item "vulnerability"
    severity := ← strItem I item "severity" }

/-- `format_key` -/
def formatKey (key : FindingKey) : Str :=
  key.severity ++ lit " " ++ key.vulnerability ++ lit " " ++ key.packageType ++ lit ":" ++
    key.package ++ lit "@" ++ key.version

/-- `item.get("vulnerability", {})` -/
def vulnerabilityOf (item : Obj) : Except Exn Obj := objOf (Py.getOr item "vulnerability" (.obj []))

/-- `fix_versions` -/
def fixVersions (item : Obj) : Except Exn (List Str) := do
  let vulnerability ← vulnerabilityOf item
  let versions ← match Py.getOr vulnerability "fix" (.obj []) with
    | .obj fix => iterate (Py.getOr fix "versions" (.arr []))
    | _ => .ok []
  return ((versions.filter (·.truthy)).map (Py.str I)).insertionSort (· ≤ ·)

/-- Dates, as `toordinal` numbers them. -/
structure Calendar where
  /-- `date.fromisoformat` -/
  fromisoformat : Str → Except Exn ℕ
  /-- `date.isoformat` -/
  isoformat : ℕ → Str
  /-- `date.today` -/
  today : ℕ

/-- The severity that the report counts a finding under. -/
def countedSeverity (finding : Json) : Except Exn Str := do
  return strOr I (← vulnerabilityOf (← objOf finding)) "severity" "Unknown"

/-- A finding of a severity that the gate looks at, under its key. -/
def currentItem (finding : Json) : Except Exn (Option (FindingKey × Obj)) := do
  let item ← objOf finding
  let severity := Py.get (← vulnerabilityOf item) "severity"
  hashable severity
  if isText (lit "Critical") severity || isText (lit "High") severity then
    return some (← findingKey I item, item)
  return none

/-- An entry of the baseline, under its key. -/
def acceptedItem (entry : Json) : Except Exn (FindingKey × Obj) := do
  let item ← objOf entry
  return (← baselineKey I item, item)

/-- What the gate finds out about the fixes of a finding. -/
inductive FixCheck
  | noFix
  | critical
  | excepted
  | lacking (versions : List Str)

/-- One pass of the loop over `current_items`. -/
def checkFix (accepted : List (FindingKey × Obj)) (entry : FindingKey × Obj) :
    Except Exn (FindingKey × FixCheck) := do
  let versions ← fixVersions I entry.2
  return (entry.1,
    if versions = [] then .noFix
    else if entry.1.severity = lit "Critical" then .critical
    else if Py.strip ((accepted.lookup entry.1).elim [] fun e => strOr I e "fix_exception" "") = []
    then .lacking versions
    else .excepted)

/-- The error of a fix check. -/
def FixCheck.error (key : FindingKey) : FixCheck → List Str
  | .lacking versions =>
    [lit "fixable High finding lacks an explicit compatibility exception: " ++ formatKey key ++
      lit " fixes=" ++ Py.join (lit ",") versions]
  | _ => []

def FixCheck.fixable : FixCheck → Bool
  | .noFix => false
  | _ => true

def FixCheck.isExcepted : FixCheck → Bool
  | .excepted => true
  | _ => false

/-- One pass of the loop over `accepted_items`. -/
def entryErrors (current : List (FindingKey × Obj)) (entry : FindingKey × Obj) : List Str :=
  (if Py.strip (strOr I entry.2 "reason" "") = [] then
    [lit "baseline entry lacks a review reason: " ++ formatKey entry.1] else []) ++
  (if (Py.get entry.2 "fix_exception").truthy && (current.lookup entry.1).isNone then
    [lit "stale fix exception: " ++ formatKey entry.1] else [])

/-- The summary of `evaluate_vulnerabilities`. -/
structure VulnerabilitySummary where
  counts : List (Str × ℕ)
  fixableCounts : List (Str × ℕ)
  acceptedHighFindings : ℕ
  acceptedFixExceptions : List Str

/-- The errors about the keys alone. -/
def keyErrors (current accepted : List FindingKey) : List Str :=
  let currentHigh := current.filter fun key => key.severity = lit "High"
  (sortedKeys (accepted.filter fun key => key.severity ≠ lit "High")).map
    (lit "baseline may only accept High findings: " ++ formatKey ·) ++
  (sortedKeys (current.filter fun key => key.severity = lit "Critical")).map
    (lit "unaccepted Critical finding: " ++ formatKey ·) ++
  (sortedKeys (currentHigh.filter (· ∉ accepted))).map (lit "new High finding: " ++ formatKey ·) ++
  (sortedKeys (accepted.filter (· ∉ currentHigh))).map (lit "stale baseline entry: " ++ formatKey ·)

/-- `evaluate_vulnerabilities` -/
def evaluateVulnerabilities (C : Calendar) (report baseline : Obj) :
    Except Exn (VulnerabilitySummary × List Str) := do
  let expiry ← C.fromisoformat (← strItem I baseline "expires_on")
  let allFindings ← iterate (Py.getOr report "matches" (.arr []))
  let severities ← allFindings.mapM (countedSeverity I)
  let currentItems := ofPairs (← allFindings.mapM (currentItem I)).reduceOption
  let acceptedItems := ofPairs
    (← (← iterate (Py.getOr baseline "accepted" (.arr []))).mapM (acceptedItem I))
  let fixes ← currentItems.mapM (checkFix I acceptedItems)
  let current := currentItems.map Prod.fst
  let accepted := acceptedItems.map Prod.fst
  let errors :=
    (if expiry < C.today then
      [lit "vulnerability baseline expired on " ++ C.isoformat expiry] else []) ++
    keyErrors current accepted ++
    fixes.flatMap (fun entry => entry.2.error entry.1) ++
    acceptedItems.flatMap (entryErrors I currentItems)
  return ({
    counts := counter severities
    fixableCounts := counter ((fixes.filter (·.2.fixable)).map (·.1.severity))
    acceptedHighFindings :=
      (current.filter fun key => key.severity = lit "High" ∧ key ∈ accepted).length
    acceptedFixExceptions :=
      ((fixes.filter (·.2.isExcepted)).map (formatKey ·.1)).insertionSort (· ≤ ·) }, errors)

/-! ## Licences -/

/-- Package, version and reported licence of a review. -/
abbrev ReviewKey := Str × Str × Str

/-- An entry of one of the two review tables: its key, its value, and whether all it needs is
there. -/
structure Review (α : Type) where
  key : ReviewKey
  value : α
  complete : Bool

/-- `str(item.get(name, "")).strip()` -/
def stripped (item : Obj) (name : String) : Str := Py.strip (strOr I item name "")

/-- The key of a review. -/
def reviewKey (item : Obj) : ReviewKey :=
  (stripped I item "package", stripped I item "version", stripped I item "reported_license")

/-- `all(key)` -/
def ReviewKey.all (key : ReviewKey) : Bool := key.1 ≠ [] && key.2.1 ≠ [] && key.2.2 ≠ []

/-- One of the `reviewed_license_acceptances`. -/
def acceptance (entry : Json) : Except Exn (Review Str) := do
  let item ← objOf entry
  let reason := stripped I item "reason"
  return ⟨reviewKey I item, reason, (reviewKey I item).all && reason ≠ []⟩

/-- `normalized` -/
def normalizedLicenses (item : Obj) : Except Exn (List Str) := do
  let values ← iterate (Py.getOr item "normalized_licenses" (.arr []))
  return (values.map fun value => Py.strip (Py.str I value)).filter (· ≠ [])

/-- One of the `reviewed_license_mappings`. -/
def mapping (entry : Json) : Except Exn (Review (List Str)) := do
  let item ← objOf entry
  let normalized ← normalizedLicenses I item
  let reason := stripped I item "reason"
  return ⟨reviewKey I item, normalized,
    (reviewKey I item).all && normalized ≠ [] && reason ≠ []⟩

/-- `package@version` -/
def release (package version : Str) : Str := package ++ lit "@" ++ version

/-- A review goes into its table, or is an error. -/
def addReview {α : Type} (kind requires : String) (s : List (ReviewKey × α) × List Str)
    (r : Review α) : List (ReviewKey × α) × List Str :=
  if r.complete = false then
    (s.1, s.2 ++ [lit "reviewed license " ++ lit kind ++ lit " requires " ++ lit requires])
  else if (s.1.lookup r.key).isSome then
    (s.1, s.2 ++ [lit "duplicate reviewed license " ++ lit kind ++ lit ": " ++ r.key.2.2 ++ lit ": " ++
      release r.key.1 r.key.2.1])
  else (s.1 ++ [(r.key, r.value)], s.2)

/-- A review table and the errors of its entries. -/
def reviewTable {α : Type} (kind requires : String) (reviews : List (Review α)) :
    List (ReviewKey × α) × List Str :=
  reviews.foldl (addReview kind requires) ([], [])

/-- The tables of a policy, and the errors found in them. -/
structure LicensePolicy where
  packageTypes : List Json
  allowed : List Json
  deniedTokens : List Str
  exceptions : List (Str × Str)
  acceptances : List (ReviewKey × Str)
  mappings : List (ReviewKey × List Str)
  errors : List Str

/-- The elements of a set. -/
def setOf (value : Json) : Except Exn (List Json) := do
  let items ← iterate value
  let _ ← items.mapM hashable
  return items

/-- One of the `missing_license_exceptions`. -/
def missingException (entry : Json) : Except Exn (Str × Str) := do
  let item ← objOf entry
  return (← strItem I item "package", ← strItem I item "version")

/-- The part of `evaluate_licenses` that reads the policy. -/
def readPolicy (upper : Str → Str) (policy : Obj) : Except Exn LicensePolicy := do
  let packageTypes ← setOf (Py.getOr policy "package_types" (.arr []))
  let allowed ← setOf (Py.getOr policy "allowed_licenses" (.arr []))
  let deniedTokens ← iterate (Py.getOr policy "denied_tokens" (.arr []))
  let exceptions ←
    (← iterate (Py.getOr policy "missing_license_exceptions" (.arr []))).mapM (missingException I)
  let acceptances ←
    (← iterate (Py.getOr policy "reviewed_license_acceptances" (.arr []))).mapM (acceptance I)
  let mappings ←
    (← iterate (Py.getOr policy "reviewed_license_mappings" (.arr []))).mapM (mapping I)
  let accepted := reviewTable "acceptance" "package, version, reported_license, and reason"
    acceptances
  let mapped := reviewTable "mapping"
    "package, version, reported_license, normalized_licenses, and reason" mappings
  return {
    packageTypes := packageTypes
    allowed := allowed
    deniedTokens := deniedTokens.map fun token => upper (Py.str I token)
    exceptions := exceptions
    acceptances := accepted.1
    mappings := mapped.1
    errors := accepted.2 ++ mapped.2 }

/-- How a licence of a component is judged. -/
inductive Verdict
  | allowed
  | accepted
  | mapped
  | refused (messages : List Str)

/-- `any(token in upper for token in denied_tokens)` -/
def LicensePolicy.denies (p : LicensePolicy) (upper : Str → Str) (license : Str) : Bool :=
  p.deniedTokens.any fun token => decide (token <:+: upper license)

/-- `license_name in allowed` -/
def LicensePolicy.allows (p : LicensePolicy) (license : Str) : Bool :=
  p.allowed.any (isText license)

/-- The error of a normalized licence. -/
def normalizedError (p : LicensePolicy) (upper : Str → Str) (name version license : Str) :
    List Str :=
  if p.denies upper license then
    [lit "reviewed license mapping resolves to denied license " ++ license ++ lit ": " ++
      release name version]
  else if p.allows license = false then
    [lit "reviewed license mapping resolves to unapproved license " ++ license ++ lit ": " ++
      release name version]
  else []

/-- One pass of the loop over the licences of a component. -/
def judge (p : LicensePolicy) (upper : Str → Str) (name version license : Str) : Verdict :=
  if p.denies upper license then
    .refused [lit "denied license " ++ license ++ lit ": " ++ release name version]
  else if p.allows license then .allowed
  else if (p.acceptances.lookup (name, version, license)).isSome then .accepted
  else match p.mappings.lookup (name, version, license) with
    | none =>
      .refused [lit "unapproved license " ++ license ++ lit ": " ++ release name version]
    | some normalized =>
      let messages := normalized.flatMap (normalizedError p upper name version)
      if messages = [] then .mapped else .refused messages

def Verdict.messages : Verdict → List Str
  | .refused messages => messages
  | _ => []

def Verdict.isAccepted : Verdict → Bool
  | .accepted => true
  | _ => false

def Verdict.isMapped : Verdict → Bool
  | .mapped => true
  | _ => false

/-- A component that is evaluated, with its licences. -/
structure Package where
  name : Str
  version : Str
  licenses : List Str

/-- The package of a component, if the policy has its type. -/
def packageOf (p : LicensePolicy) (component : Json) : Except Exn (Option Package) := do
  let component ← objOf component
  let type ← packageType component
  hashable type
  if p.packageTypes.any (same type) = false then return none
  return some {
    name := strOr I component "name" ""
    version := strOr I component "version" ""
    licenses := ← componentLicenses I component }

/-- The errors of a package. -/
def packageErrors (p : LicensePolicy) (upper : Str → Str) (package : Package) : List Str :=
  if package.licenses = [] then
    if (package.name, package.version) ∈ p.exceptions then []
    else [lit "missing license metadata: " ++ release package.name package.version]
  else package.licenses.flatMap fun license =>
    (judge p upper package.name package.version license).messages

/-- `f"{name}@{version}: {reported}"` -/
def reviewText (key : ReviewKey) : Str := release key.1 key.2.1 ++ lit ": " ++ key.2.2

/-- The reviews of one kind that a package uses. -/
def reviewHits (p : LicensePolicy) (upper : Str → Str) (kind : Verdict → Bool) (package : Package) :
    List Str :=
  (package.licenses.filter fun license =>
      kind (judge p upper package.name package.version license)).map fun license =>
    reviewText (package.name, package.version, license)

/-- The summary of `evaluate_licenses`. -/
structure LicenseSummary where
  packagesEvaluated : ℕ
  licenses : List (Str × ℕ)
  missingLicenseExceptionsUsed : List Str
  reviewedLicenseAcceptancesUsed : List Str
  reviewedLicenseMappingsUsed : List Str

/-- `evaluate_licenses` -/
def evaluateLicenses (upper : Str → Str) (sbom policy : Obj) :
    Except Exn (LicenseSummary × List Str) := do
  let p ← readPolicy I upper policy
  let components ← iterate (Py.getOr sbom "components" (.arr []))
  let packages := (← components.mapM (packageOf I p)).reduceOption
  let exceptionHits := (packages.filter fun package =>
    package.licenses = [] ∧ (package.name, package.version) ∈ p.exceptions).map fun package =>
      release package.name package.version
  let acceptanceHits := packages.flatMap (reviewHits p upper (·.isAccepted))
  let mappingHits := packages.flatMap (reviewHits p upper (·.isMapped))
  let stale (kind : String) (expected hits : List Str) : List Str :=
    (sorted (expected.filter (· ∉ hits))).map (lit "stale " ++ lit kind ++ lit ": " ++ ·)
  let errors := p.errors ++ packages.flatMap (packageErrors p upper) ++
    stale "missing-license exception" (p.exceptions.map fun e => release e.1 e.2) exceptionHits ++
    stale "reviewed license acceptance" (p.acceptances.map (reviewText ·.1)) acceptanceHits ++
    stale "reviewed license mapping" (p.mappings.map (reviewText ·.1)) mappingHits
  return ({
    packagesEvaluated := packages.length
    licenses := counter (packages.flatMap (·.licenses))
    missingLicenseExceptionsUsed := exceptionHits.insertionSort (· ≤ ·)
    reviewedLicenseAcceptancesUsed := acceptanceHits.insertionSort (· ≤ ·)
    reviewedLicenseMappingsUsed := mappingHits.insertionSort (· ≤ ·) }, errors)

end

end AgencyRuntime.Scripts
