import AgencyRuntime.Scripts.SupplyChain
import Mathlib.Data.List.ReduceOption

/-!
# What a pass of the gate means

A report without errors has no Critical match, and every High match is in the baseline
(`evaluateVulnerabilities_ok`). Two things can pass unseen: the fix of a match that a later match with
the same key replaces, and an entry whose reason is a JSON value such as `null`, since its text is
not empty. A bill of materials without errors has only cleared licences, except for the name that
stands beside an id (`evaluateLicenses_ok`).
-/

namespace AgencyRuntime.Scripts

open Py (lit)
open Tables

/-! ## Documents -/

/-- The elements of a member of a document. -/
def elements (document : Obj) (name : String) : List Json :=
  (iterate (Py.getOr document name (.arr []))).toOption.getD []

/-- The value is false, and its text is not empty: `None`, `False`, `0`, `[]` and the like. -/
def spelled : Json → Bool
  | .str _ => false
  | value => !value.truthy

/-- The severity of a match. -/
def severityOf (item : Obj) : Json :=
  match Py.getOr item "vulnerability" (.obj []) with
  | .obj vulnerability => Py.get vulnerability "severity"
  | _ => .null

/-- The match has the severity. -/
def HasSeverity (severity : String) (item : Obj) : Prop :=
  isText (lit severity) (severityOf item) = true

theorem isText_iff {s : Str} {value : Json} : isText s value = true ↔ value = .str s := by
  cases value with
  | str t => simp [isText]
  | null => simp [isText]
  | bool b => simp [isText]
  | int n => simp [isText]
  | float r => simp [isText]
  | arr items => simp [isText]
  | obj fields => simp [isText]

theorem objOf_ok {value : Json} {fields : Obj} : objOf value = .ok fields ↔ value = .obj fields := by
  cases value <;> simp [objOf]

theorem elements_eq {document : Obj} {name : String} {items : List Json}
    (h : iterate (Py.getOr document name (.arr [])) = .ok items) : elements document name = items := by
  rw [elements, h]
  rfl

section
variable {α β : Type} {f : α → Except Exn β} {xs : List α} {ys : List β}

theorem mapM_toOption (h : xs.mapM f = .ok ys) : xs.filterMap (fun x => (f x).toOption) = ys := by
  induction xs generalizing ys with
  | nil =>
    cases h
    rfl
  | cons x xs ih =>
    rw [List.mapM_cons] at h
    obtain ⟨y, hy, h⟩ := exceptBind_ok h
    obtain ⟨ys', hys, h⟩ := exceptBind_ok h
    cases h
    rw [List.filterMap_cons, hy, ih hys]
    rfl

/-- A pass that succeeds succeeds at each element. -/
theorem mapM_apply (h : xs.mapM f = .ok ys) {x : α} (hx : x ∈ xs) : ∃ y ∈ ys, f x = .ok y := by
  induction xs generalizing ys with
  | nil => cases hx
  | cons z xs ih =>
    rw [List.mapM_cons] at h
    obtain ⟨y, hy, h⟩ := exceptBind_ok h
    obtain ⟨ys', hys, h⟩ := exceptBind_ok h
    cases h
    rcases List.mem_cons.1 hx with rfl | hx
    · exact ⟨y, List.mem_cons_self, hy⟩
    · obtain ⟨w, hw, hfx⟩ := ih hys hx
      exact ⟨w, List.mem_cons_of_mem _ hw, hfx⟩

end

section
variable {I : Interpreter} {C : Calendar}

/-! ## Vulnerabilities -/

/-- The match lists a fix version. -/
def ListsFix (I : Interpreter) (item : Obj) : Prop :=
  ∃ versions, fixVersions I item = .ok versions ∧ versions ≠ []

/-- The Critical and High matches under their keys. -/
def currentPairs (I : Interpreter) (report : Obj) : List (FindingKey × Obj) :=
  ((elements report "matches").filterMap fun m => (currentItem I m).toOption).reduceOption

/-- The entries of the baseline under their keys; the last of a key is in force. -/
def acceptedPairs (I : Interpreter) (baseline : Obj) : List (FindingKey × Obj) :=
  (elements baseline "accepted").filterMap fun e => (acceptedItem I e).toOption

/-- The member of an entry is there, is true, and is not blank. -/
structure Filled (I : Interpreter) (entry : Obj) (name : String) : Prop where
  truthy : (Py.get entry name).truthy = true
  text : Py.strip (strOr I entry name "") ≠ []

/-- The baseline accepts a match, with the member. -/
def AcceptedWith (I : Interpreter) (baseline item : Obj) (name : String) : Prop :=
  ∃ key entry, findingKey I item = .ok key ∧ lastValue (acceptedPairs I baseline) key = some entry ∧
    Filled I entry name

/-- What a pass of the report should mean. -/
structure FindingsCovered (I : Interpreter) (report baseline : Obj) : Prop where
  critical : ∀ item, .obj item ∈ elements report "matches" → ¬ HasSeverity "Critical" item
  high : ∀ item, .obj item ∈ elements report "matches" → HasSeverity "High" item →
    AcceptedWith I baseline item "reason"
  fixable : ∀ item, .obj item ∈ elements report "matches" → HasSeverity "High" item →
    ListsFix I item → AcceptedWith I baseline item "fix_exception"

/-- What the gate does not see is no loss. -/
structure NothingLost (I : Interpreter) (report baseline : Obj) : Prop where
  /-- No accepted High match has a reason such as `null`. -/
  reasons : ∀ item key entry reason, .obj item ∈ elements report "matches" →
    HasSeverity "High" item → findingKey I item = .ok key →
    lastValue (acceptedPairs I baseline) key = some entry →
    entry.lookup (lit "reason") = some reason → spelled reason = false
  /-- No High match with a fix has an exception such as `null`. -/
  exceptions : ∀ item key entry exception, .obj item ∈ elements report "matches" →
    HasSeverity "High" item → ListsFix I item → findingKey I item = .ok key →
    lastValue (acceptedPairs I baseline) key = some entry →
    entry.lookup (lit "fix_exception") = some exception → spelled exception = false
  /-- Where the last match of a key lists no fix, and another does, there is an exception. -/
  replaced : ∀ item key last entry, .obj item ∈ elements report "matches" →
    HasSeverity "High" item → ListsFix I item → findingKey I item = .ok key →
    lastValue (currentPairs I report) key = some last → ¬ ListsFix I last →
    lastValue (acceptedPairs I baseline) key = some entry →
    Py.strip (strOr I entry "fix_exception" "") ≠ []

/-- A text that is not blank is there; it is the text of a true value unless that is spelled out. -/
theorem filled_iff {entry : Obj} {name : String} (h : Py.strip (strOr I entry name "") ≠ []) :
    Filled I entry name ↔ ∀ value, entry.lookup (lit name) = some value → spelled value = false := by
  have hget {value : Json} (hvalue : entry.lookup (lit name) = some value) :
      Py.get entry name = value := by rw [Py.get, hvalue]; rfl
  cases hlookup : entry.lookup (lit name) with
  | none =>
    rw [strOr, Py.getOr, hlookup] at h
    exact absurd rfl h
  | some value =>
    have hstr : strOr I entry name "" = Py.str I value := by rw [strOr, Py.getOr, hlookup]; rfl
    constructor
    · rintro ⟨htruthy, -⟩ other hother
      obtain rfl := Option.some.inj hother
      rw [hget hlookup] at htruthy
      cases value <;> simp_all [spelled]
    · intro hspelled
      refine ⟨?_, h⟩
      have := hspelled value rfl
      rw [hget hlookup]
      cases value with
      | str s =>
        have hs : s ≠ [] := by
          rintro rfl
          rw [hstr] at h
          exact h rfl
        simpa [Json.truthy] using hs
      | null => simpa [spelled] using this
      | bool b => simpa [spelled] using this
      | int n => simpa [spelled] using this
      | float r => simpa [spelled] using this
      | arr items => simpa [spelled] using this
      | obj fields => simpa [spelled] using this

theorem getOr_get {o : Obj} {name : String} {value : Json} (h : Py.get o name = value)
    (hvalue : value ≠ .null) (default : Json) : Py.getOr o name default = value := by
  rw [Py.get] at h
  rw [Py.getOr]
  cases hlookup : o.lookup (lit name) with
  | some found =>
    rw [hlookup] at h
    exact h
  | none =>
    rw [hlookup] at h
    exact absurd h.symm hvalue

/-- A match with a severity has a vulnerability, which names it. -/
theorem HasSeverity.vulnerability {severity : String} {item : Obj} (h : HasSeverity severity item) :
    ∃ v, Py.getOr item "vulnerability" (.obj []) = .obj v ∧ item.lookup (lit "vulnerability") ≠ none ∧
      Py.get v "severity" = .str (lit severity) := by
  rw [HasSeverity, severityOf] at h
  split at h
  next v hv =>
    refine ⟨v, hv, ?_, isText_iff.1 h⟩
    intro hnone
    rw [Py.getOr, hnone] at hv
    obtain rfl := Json.obj.inj hv
    cases h
  · cases h

/-- The key of a match names its severity. -/
theorem findingKey_severity {severity : String} {item : Obj} {key : FindingKey}
    (h : HasSeverity severity item) (hkey : findingKey I item = .ok key) :
    key.severity = lit severity := by
  obtain ⟨v, hv, hsome, hseverity⟩ := h.vulnerability
  rw [findingKey] at hkey
  obtain ⟨artifact, -, hkey⟩ := exceptBind_ok hkey
  obtain ⟨artifact', -, hkey⟩ := exceptBind_ok hkey
  obtain ⟨vulnerability, hitem, hkey⟩ := exceptBind_ok hkey
  obtain ⟨v', hv', hkey⟩ := exceptBind_ok hkey
  cases hkey
  have heq : vulnerability = .obj v := by
    rw [Py.item] at hitem
    rw [Py.getOr] at hv
    cases hlookup : item.lookup (lit "vulnerability") with
    | none => exact absurd hlookup hsome
    | some found =>
      rw [hlookup] at hitem hv
      exact (Except.ok.inj hitem).symm.trans hv
  obtain rfl := Json.obj.inj ((objOf_ok.1 hv').symm.trans heq)
  change strOr I _ "severity" "" = lit severity
  rw [strOr, getOr_get hseverity (by rintro ⟨⟩)]
  rfl

/-- A Critical or High match is a current item, under its key. -/
theorem currentItem_ok {severity : String} {item : Obj} {r : Option (FindingKey × Obj)}
    (h : HasSeverity severity item) (hseverity : severity = "Critical" ∨ severity = "High")
    (hitem : currentItem I (.obj item) = .ok r) :
    ∃ key, findingKey I item = .ok key ∧ r = some (key, item) := by
  obtain ⟨v, hv, -, hget⟩ := h.vulnerability
  have hvulnerability : vulnerabilityOf item = .ok v := by
    rw [vulnerabilityOf, hv]
    rfl
  have htext : (isText (lit "Critical") (Py.get v "severity") ||
      isText (lit "High") (Py.get v "severity")) = true := by
    rw [hget, Bool.or_eq_true, isText_iff, isText_iff]
    rcases hseverity with rfl | rfl
    · exact .inl rfl
    · exact .inr rfl
  rw [currentItem] at hitem
  obtain ⟨item', hobj, hitem⟩ := exceptBind_ok hitem
  obtain rfl := Json.obj.inj (objOf_ok.1 hobj)
  obtain ⟨v', hv', hitem⟩ := exceptBind_ok hitem
  obtain rfl := Except.ok.inj (hv'.symm.trans hvulnerability)
  obtain ⟨u, -, hitem⟩ := exceptBind_ok hitem
  rw [if_pos htext] at hitem
  obtain ⟨key, hkey, hitem⟩ := exceptBind_ok hitem
  cases hitem
  exact ⟨key, hkey, rfl⟩

theorem sortedKeys_eq_nil {keys : List FindingKey} : sortedKeys keys = [] ↔ keys = [] := by
  rw [← List.length_eq_zero_iff, sortedKeys, List.length_insertionSort, List.length_eq_zero_iff]

/-- Without key errors no key is Critical, and each High one is accepted. -/
theorem keyErrors_nil {current accepted : List FindingKey} (h : keyErrors current accepted = []) :
    (∀ key ∈ current, key.severity ≠ lit "Critical") ∧
    (∀ key ∈ current, key.severity = lit "High" → key ∈ accepted) := by
  simp only [keyErrors, List.append_eq_nil_iff, List.map_eq_nil_iff, sortedKeys_eq_nil,
    List.filter_eq_nil_iff] at h
  obtain ⟨⟨⟨-, hcritical⟩, hhigh⟩, -⟩ := h
  refine ⟨fun key hkey hseverity => hcritical key hkey (decide_eq_true hseverity),
    fun key hkey hseverity => ?_⟩
  have := hhigh key (List.mem_filter.2 ⟨hkey, decide_eq_true hseverity⟩)
  simpa using this

/-- What a pass of a report says about the dictionaries. -/
structure Passed (I : Interpreter) (report baseline : Obj) : Prop where
  item : ∀ item, .obj item ∈ elements report "matches" → ∃ r, currentItem I (.obj item) = .ok r
  critical : ∀ key item, (key, item) ∈ currentPairs I report → key.severity ≠ lit "Critical"
  accepted : ∀ key item, (key, item) ∈ currentPairs I report → key.severity = lit "High" →
    ∃ entry, lastValue (acceptedPairs I baseline) key = some entry
  reason : ∀ key entry, lastValue (acceptedPairs I baseline) key = some entry →
    Py.strip (strOr I entry "reason" "") ≠ []
  exception : ∀ key item entry, lastValue (currentPairs I report) key = some item →
    key.severity = lit "High" → lastValue (acceptedPairs I baseline) key = some entry →
    ListsFix I item → Py.strip (strOr I entry "fix_exception" "") ≠ []

theorem checkFix_error {accepted : List (FindingKey × Obj)} {key : FindingKey} {item entry : Obj}
    {check : FindingKey × FixCheck} (hcheck : checkFix I accepted (key, item) = .ok check)
    (herror : check.2.error check.1 = []) (hseverity : key.severity = lit "High")
    (hentry : accepted.lookup key = some entry) (hfix : ListsFix I item) :
    Py.strip (strOr I entry "fix_exception" "") ≠ [] := by
  obtain ⟨versions, hversions, hne⟩ := hfix
  rw [checkFix, hversions] at hcheck
  cases hcheck
  intro hstrip
  simp only [if_neg hne, hseverity, hentry] at herror
  rw [if_neg (by decide), Option.elim_some, if_pos hstrip] at herror
  cases herror

theorem evaluateVulnerabilities_ok {report baseline : Obj} {summary : VulnerabilitySummary}
    (h : evaluateVulnerabilities I C report baseline = .ok (summary, [])) :
    Passed I report baseline := by
  rw [evaluateVulnerabilities] at h
  obtain ⟨expires, -, h⟩ := exceptBind_ok h
  obtain ⟨expiry, -, h⟩ := exceptBind_ok h
  obtain ⟨findings, hfindings, h⟩ := exceptBind_ok h
  obtain ⟨severities, -, h⟩ := exceptBind_ok h
  obtain ⟨current, hcurrent, h⟩ := exceptBind_ok h
  obtain ⟨entries, hentries, h⟩ := exceptBind_ok h
  obtain ⟨accepted, haccepted, h⟩ := exceptBind_ok h
  obtain ⟨fixes, hfixes, h⟩ := exceptBind_ok h
  have herrors := congrArg Prod.snd (Except.ok.inj h)
  simp only [List.append_eq_nil_iff] at herrors
  obtain ⟨⟨⟨-, hkeys⟩, hfixErrors⟩, hentryErrors⟩ := herrors
  have hcurrentPairs : currentPairs I report = current.reduceOption := by
    rw [currentPairs, elements_eq hfindings, mapM_toOption hcurrent]
  have hacceptedPairs : acceptedPairs I baseline = accepted := by
    rw [acceptedPairs, elements_eq hentries, mapM_toOption haccepted]
  obtain ⟨hcritical, hhigh⟩ := keyErrors_nil hkeys
  refine ⟨fun item hitem => ?_, fun key item hitem => ?_, fun key item hitem hseverity => ?_,
    fun key entry hentry => ?_, fun key item entry hitem hseverity hentry hfix => ?_⟩
  · rw [elements_eq hfindings] at hitem
    obtain ⟨r, -, hr⟩ := mapM_apply hcurrent hitem
    exact ⟨r, hr⟩
  · exact hcritical key (mem_keys_ofPairs.2 ⟨item, hcurrentPairs ▸ hitem⟩)
  · have hmem := hhigh key (mem_keys_ofPairs.2 ⟨item, hcurrentPairs ▸ hitem⟩) hseverity
    obtain ⟨entry, hentry⟩ := mem_keys_ofPairs.1 hmem
    rw [hacceptedPairs]
    exact exists_lastValue hentry
  · rw [hacceptedPairs] at hentry
    have := List.flatMap_eq_nil_iff.1 hentryErrors _ (mem_ofPairs.2 hentry)
    rw [entryErrors, List.append_eq_nil_iff] at this
    intro hstrip
    rw [if_pos hstrip] at this
    cases this.1
  · rw [hcurrentPairs] at hitem
    rw [hacceptedPairs, ← lookup_ofPairs] at hentry
    obtain ⟨check, hcheck, hok⟩ := mapM_apply hfixes (mem_ofPairs.2 hitem)
    exact checkFix_error hok (List.flatMap_eq_nil_iff.1 hfixErrors _ hcheck) hseverity hentry hfix

/-- A High or Critical match of a report that passes, under its key. -/
theorem Passed.current {report baseline : Obj} (h : Passed I report baseline) {severity : String}
    {item : Obj} (hitem : .obj item ∈ elements report "matches") (hhas : HasSeverity severity item)
    (hseverity : severity = "Critical" ∨ severity = "High") :
    ∃ key, findingKey I item = .ok key ∧ (key, item) ∈ currentPairs I report ∧
      key.severity = lit severity := by
  obtain ⟨r, hr⟩ := h.item item hitem
  obtain ⟨key, hkey, rfl⟩ := currentItem_ok hhas hseverity hr
  refine ⟨key, hkey, ?_, findingKey_severity hhas hkey⟩
  rw [currentPairs, List.reduceOption_mem_iff, List.mem_filterMap]
  exact ⟨_, hitem, by rw [hr]; rfl⟩

/-- The entry that accepts a match is the one in force for its key. -/
theorem AcceptedWith.filled {baseline item entry : Obj} {name : String} {key : FindingKey}
    (h : AcceptedWith I baseline item name) (hkey : findingKey I item = .ok key)
    (hentry : lastValue (acceptedPairs I baseline) key = some entry) : Filled I entry name := by
  obtain ⟨key', entry', hkey', hentry', hfilled⟩ := h
  obtain rfl := Except.ok.inj (hkey.symm.trans hkey')
  obtain rfl := Option.some.inj (hentry.symm.trans hentry')
  exact hfilled

/-- A report that passes is covered exactly if nothing is lost. -/
theorem Passed.covered_iff {report baseline : Obj} (h : Passed I report baseline) :
    FindingsCovered I report baseline ↔ NothingLost I report baseline := by
  constructor
  · intro hcovered
    refine ⟨fun item key entry reason hitem hhigh hkey hentry hreason => ?_,
      fun item key entry exception hitem hhigh hfix hkey hentry hexception => ?_,
      fun item key last entry hitem hhigh hfix hkey hlast hnone hentry => ?_⟩
    · have hfilled := (hcovered.high item hitem hhigh).filled hkey hentry
      exact (filled_iff hfilled.text).1 hfilled reason hreason
    · have hfilled := (hcovered.fixable item hitem hhigh hfix).filled hkey hentry
      exact (filled_iff hfilled.text).1 hfilled exception hexception
    · exact ((hcovered.fixable item hitem hhigh hfix).filled hkey hentry).text
  · intro hlost
    refine ⟨fun item hitem hcritical => ?_, fun item hitem hhigh => ?_,
      fun item hitem hhigh hfix => ?_⟩
    · obtain ⟨key, -, hmem, hseverity⟩ := h.current hitem hcritical (.inl rfl)
      exact h.critical key item hmem hseverity
    · obtain ⟨key, hkey, hmem, hseverity⟩ := h.current hitem hhigh (.inr rfl)
      obtain ⟨entry, hentry⟩ := h.accepted key item hmem hseverity
      refine ⟨key, entry, hkey, hentry, (filled_iff (h.reason key entry hentry)).2 ?_⟩
      intro reason hreason
      exact hlost.reasons item key entry reason hitem hhigh hkey hentry hreason
    · obtain ⟨key, hkey, hmem, hseverity⟩ := h.current hitem hhigh (.inr rfl)
      obtain ⟨entry, hentry⟩ := h.accepted key item hmem hseverity
      obtain ⟨last, hlast⟩ := exists_lastValue hmem
      have htext : Py.strip (strOr I entry "fix_exception" "") ≠ [] := by
        by_cases hlists : ListsFix I last
        · exact h.exception key last entry hlast hseverity hentry hlists
        · exact hlost.replaced item key last entry hitem hhigh hfix hkey hlast hlists hentry
      refine ⟨key, entry, hkey, hentry, (filled_iff htext).2 ?_⟩
      intro exception hexception
      exact hlost.exceptions item key entry exception hitem hhigh hfix hkey hentry hexception

/-! ## Licences -/

section
variable (I : Interpreter) (upper : Str → Str) (policy : Obj)

/-- A component of a type that the policy evaluates. -/
def EvaluatedBy (component : Obj) : Prop :=
  ∃ type, packageType component = .ok type ∧
    (elements policy "package_types").any (same type) = true

/-- The licence contains a denied token. -/
def Denied (license : Str) : Prop :=
  ∃ token ∈ elements policy "denied_tokens", upper (Py.str I token) <:+: upper license

/-- The licence is allowed. -/
def Allowed (license : Str) : Prop := .str license ∈ elements policy "allowed_licenses"

/-- The licence is accepted for exactly this release. -/
def AcceptedExactly (key : ReviewKey) : Prop :=
  ∃ item, .obj item ∈ elements policy "reviewed_license_acceptances" ∧ reviewKey I item = key

/-- The licence is mapped, for exactly this release, to allowed licences only. -/
def MappedToAllowed (key : ReviewKey) : Prop :=
  ∃ item normalized, .obj item ∈ elements policy "reviewed_license_mappings" ∧
    reviewKey I item = key ∧ normalizedLicenses I item = .ok normalized ∧ normalized ≠ [] ∧
    ∀ license ∈ normalized, ¬ Denied I upper policy license ∧ Allowed policy license

/-- The licence of a component passes the policy. -/
structure Cleared (component : Obj) (license : Str) : Prop where
  not_denied : ¬ Denied I upper policy license
  approved : Allowed policy license ∨
    AcceptedExactly I policy (strOr I component "name" "", strOr I component "version" "", license) ∨
    MappedToAllowed I upper policy
      (strOr I component "name" "", strOr I component "version" "", license)

/-- The component may lack a licence. -/
def MayLack (component : Obj) : Prop :=
  ∃ item, .obj item ∈ elements policy "missing_license_exceptions" ∧
    strItem I item "package" = .ok (strOr I component "name" "") ∧
    strItem I item "version" = .ok (strOr I component "version" "")

/-- The ids, names and expressions of an item. -/
def listedTexts : Json → List Str
  | .obj item =>
    (match Py.get item "license" with
      | .obj license => textIf I (Py.get license "id") ++ textIf I (Py.get license "name")
      | _ => []) ++
    textIf I (Py.get item "expression")
  | _ => []

/-- The ids, names and expressions of a component. -/
def listedLicenses (component : Obj) : List Str :=
  (elements component "licenses").flatMap (listedTexts I)

/-- What a pass of the bill of materials should mean. -/
structure LicensesCovered (sbom : Obj) : Prop where
  cleared : ∀ component, .obj component ∈ elements sbom "components" → EvaluatedBy policy component →
    ∀ license ∈ listedLicenses I component, Cleared I upper policy component license
  missing : ∀ component, .obj component ∈ elements sbom "components" → EvaluatedBy policy component →
    listedLicenses I component = [] → MayLack I policy component

/-- A name that stands beside an id passes the policy, too. -/
def NamesCleared (sbom : Obj) : Prop :=
  ∀ component item license, .obj component ∈ elements sbom "components" →
    EvaluatedBy policy component → .obj item ∈ elements component "licenses" →
    Py.get item "license" = .obj license → (Py.get license "id").truthy = true →
    (Py.get license "name").truthy = true →
    Cleared I upper policy component (Py.str I (Py.get license "name"))

/-- The tables hold what the policy lists. -/
structure ReadsPolicy (p : LicensePolicy) : Prop where
  packageTypes : p.packageTypes = elements policy "package_types"
  allowed : p.allowed = elements policy "allowed_licenses"
  deniedTokens : p.deniedTokens =
    (elements policy "denied_tokens").map fun token => upper (Py.str I token)
  exceptions : ∀ e ∈ p.exceptions, ∃ item,
    .obj item ∈ elements policy "missing_license_exceptions" ∧
    strItem I item "package" = .ok e.1 ∧ strItem I item "version" = .ok e.2
  acceptances : ∀ e ∈ p.acceptances, AcceptedExactly I policy e.1
  mappings : ∀ e ∈ p.mappings, ∃ item, .obj item ∈ elements policy "reviewed_license_mappings" ∧
    reviewKey I item = e.1 ∧ normalizedLicenses I item = .ok e.2 ∧ e.2 ≠ []

end

theorem addReview_foldl {α : Type} {kind requires : String} {reviews : List (Review α)}
    {s : List (ReviewKey × α) × List Str} {e : ReviewKey × α}
    (h : e ∈ (reviews.foldl (addReview kind requires) s).1) :
    e ∈ s.1 ∨ ∃ r ∈ reviews, r.complete = true ∧ e = (r.key, r.value) := by
  induction reviews generalizing s with
  | nil => exact .inl h
  | cons r reviews ih =>
    rcases ih h with hs | ⟨r', hr', hrest⟩
    · rw [addReview] at hs
      split at hs
      · exact .inl hs
      next hcomplete =>
        split at hs
        · exact .inl hs
        · rcases List.mem_append.1 hs with hs | hs
          · exact .inl hs
          · exact .inr ⟨r, List.mem_cons_self, Bool.eq_true_of_not_eq_false hcomplete,
              List.mem_singleton.1 hs⟩
    · exact .inr ⟨r', List.mem_cons_of_mem _ hr', hrest⟩

/-- The entries of a review table are complete reviews. -/
theorem reviewTable_mem {α : Type} {kind requires : String} {reviews : List (Review α)}
    {e : ReviewKey × α} (h : e ∈ (reviewTable kind requires reviews).1) :
    ∃ r ∈ reviews, r.complete = true ∧ e = (r.key, r.value) :=
  (addReview_foldl h).resolve_left List.not_mem_nil

/-- What a pass over decoded values yields comes from one of them. -/
theorem mapM_source {α β : Type} {f : α → Except Exn β} {xs : List α} {ys : List β}
    (h : xs.mapM f = .ok ys) {y : β} (hy : y ∈ ys) : ∃ x ∈ xs, f x = .ok y := by
  rw [← mapM_toOption h, List.mem_filterMap] at hy
  obtain ⟨x, hx, hfx⟩ := hy
  refine ⟨x, hx, ?_⟩
  cases hresult : f x with
  | ok z =>
    rw [hresult] at hfx
    exact congrArg Except.ok (Option.some.inj hfx)
  | error e =>
    rw [hresult] at hfx
    cases hfx

variable {upper : Str → Str} {policy sbom : Obj} {p : LicensePolicy}

theorem setOf_ok {value : Json} {items : List Json} (h : setOf value = .ok items) :
    iterate value = .ok items := by
  rw [setOf] at h
  obtain ⟨found, hfound, h⟩ := exceptBind_ok h
  obtain ⟨u, -, h⟩ := exceptBind_ok h
  cases h
  exact hfound

theorem acceptance_ok {entry : Json} {r : Review Str} (h : acceptance I entry = .ok r) :
    ∃ item, entry = .obj item ∧ r.key = reviewKey I item := by
  rw [acceptance] at h
  obtain ⟨item, hitem, h⟩ := exceptBind_ok h
  cases h
  exact ⟨item, objOf_ok.1 hitem, rfl⟩

theorem mapping_ok {entry : Json} {r : Review (List Str)} (h : mapping I entry = .ok r)
    (hcomplete : r.complete = true) : ∃ item, entry = .obj item ∧ r.key = reviewKey I item ∧
      normalizedLicenses I item = .ok r.value ∧ r.value ≠ [] := by
  rw [mapping] at h
  obtain ⟨item, hitem, h⟩ := exceptBind_ok h
  obtain ⟨normalized, hnormalized, h⟩ := exceptBind_ok h
  cases h
  simp only [Bool.and_eq_true, decide_eq_true_eq] at hcomplete
  exact ⟨item, objOf_ok.1 hitem, rfl, hnormalized, hcomplete.1.2⟩

theorem readPolicy_ok (h : readPolicy I upper policy = .ok p) : ReadsPolicy I upper policy p := by
  rw [readPolicy] at h
  obtain ⟨packageTypes, htypes, h⟩ := exceptBind_ok h
  obtain ⟨allowed, hallowed, h⟩ := exceptBind_ok h
  obtain ⟨tokens, htokens, h⟩ := exceptBind_ok h
  obtain ⟨missing, hmissing, h⟩ := exceptBind_ok h
  obtain ⟨exceptions, hexceptions, h⟩ := exceptBind_ok h
  obtain ⟨accepted, haccepted, h⟩ := exceptBind_ok h
  obtain ⟨acceptances, hacceptances, h⟩ := exceptBind_ok h
  obtain ⟨mapped, hmapped, h⟩ := exceptBind_ok h
  obtain ⟨mappings, hmappings, h⟩ := exceptBind_ok h
  cases h
  refine ⟨(elements_eq (setOf_ok htypes)).symm, (elements_eq (setOf_ok hallowed)).symm,
    ?_, fun e he => ?_, fun e he => ?_, fun e he => ?_⟩
  · rw [elements_eq htokens]
  · obtain ⟨entry, hentry, hread⟩ := mapM_source hexceptions he
    rw [missingException] at hread
    obtain ⟨item, hitem, hread⟩ := exceptBind_ok hread
    obtain ⟨package, hpackage, hread⟩ := exceptBind_ok hread
    obtain ⟨version, hversion, hread⟩ := exceptBind_ok hread
    cases hread
    obtain rfl := objOf_ok.1 hitem
    exact ⟨item, elements_eq hmissing ▸ hentry, hpackage, hversion⟩
  · obtain ⟨r, hr, -, rfl⟩ := reviewTable_mem he
    obtain ⟨entry, hentry, hread⟩ := mapM_source hacceptances hr
    obtain ⟨item, rfl, hkey⟩ := acceptance_ok hread
    exact ⟨item, elements_eq haccepted ▸ hentry, hkey.symm⟩
  · obtain ⟨r, hr, hcomplete, rfl⟩ := reviewTable_mem he
    obtain ⟨entry, hentry, hread⟩ := mapM_source hmappings hr
    obtain ⟨item, rfl, hkey, hnormalized, hne⟩ := mapping_ok hread hcomplete
    exact ⟨item, elements_eq hmapped ▸ hentry, hkey.symm, hnormalized, hne⟩

theorem ReadsPolicy.denies_iff (h : ReadsPolicy I upper policy p) {license : Str} :
    p.denies upper license = true ↔ Denied I upper policy license := by
  rw [LicensePolicy.denies, h.deniedTokens, List.any_map, List.any_eq_true]
  simp only [Function.comp_apply, decide_eq_true_eq, Denied]

theorem ReadsPolicy.allows_iff (h : ReadsPolicy I upper policy p) {license : Str} :
    p.allows license = true ↔ Allowed policy license := by
  rw [LicensePolicy.allows, h.allowed, List.any_eq_true]
  simp only [isText_iff, exists_eq_right, Allowed]

theorem normalizedError_nil (h : ReadsPolicy I upper policy p) {name version license : Str}
    (herror : normalizedError p upper name version license = []) :
    ¬ Denied I upper policy license ∧ Allowed policy license := by
  rw [normalizedError] at herror
  split at herror
  · cases herror
  next hdenies =>
    split at herror
    · cases herror
    next hallows =>
      exact ⟨fun hdenied => hdenies (h.denies_iff.2 hdenied),
        h.allows_iff.1 (Bool.eq_true_of_not_eq_false hallows)⟩

/-- A licence that is judged without an error is cleared. -/
theorem judge_cleared (h : ReadsPolicy I upper policy p) {component : Obj} {license : Str}
    (hjudge : (judge p upper (strOr I component "name" "") (strOr I component "version" "")
      license).messages = []) : Cleared I upper policy component license := by
  rw [judge] at hjudge
  split at hjudge
  · cases hjudge
  next hdenies =>
    refine ⟨fun hdenied => hdenies (h.denies_iff.2 hdenied), ?_⟩
    split at hjudge
    next hallows => exact .inl (h.allows_iff.1 hallows)
    split at hjudge
    next haccepted =>
      obtain ⟨reason, hreason⟩ := Option.isSome_iff_exists.1 haccepted
      exact .inr (.inl (h.acceptances _ (mem_of_lookup hreason)))
    split at hjudge
    · cases hjudge
    next normalized hnormalized =>
      obtain ⟨item, hitem, hkey, hread, hne⟩ := h.mappings _ (mem_of_lookup hnormalized)
      refine .inr (.inr ⟨item, normalized, hitem, hkey, hread, hne, fun l hl => ?_⟩)
      dsimp only at hjudge
      split at hjudge
      next hmessages =>
        exact normalizedError_nil h (List.flatMap_eq_nil_iff.1 hmessages l hl)
      next hmessages => exact absurd hjudge hmessages

/-- What a pass says of an evaluated component: the values that the gate takes are cleared, and
where it takes none there is an exception. -/
theorem evaluateLicenses_ok {summary : LicenseSummary}
    (h : evaluateLicenses I upper sbom policy = .ok (summary, [])) {component : Obj}
    (hcomponent : .obj component ∈ elements sbom "components")
    (hevaluated : EvaluatedBy policy component) :
    (∀ license ∈ (elements component "licenses").flatMap (licenseTexts I),
      Cleared I upper policy component license) ∧
    ((elements component "licenses").flatMap (licenseTexts I) = [] →
      MayLack I policy component) := by
  rw [evaluateLicenses] at h
  obtain ⟨p, hp, h⟩ := exceptBind_ok h
  obtain ⟨components, hcomponents, h⟩ := exceptBind_ok h
  obtain ⟨packages, hpackages, h⟩ := exceptBind_ok h
  have hreads := readPolicy_ok hp
  have herrors := congrArg Prod.snd (Except.ok.inj h)
  simp only [List.append_eq_nil_iff] at herrors
  obtain ⟨⟨⟨⟨-, hpackageErrors⟩, -⟩, -⟩, -⟩ := herrors
  rw [elements_eq hcomponents] at hcomponent
  obtain ⟨r, hr, hpackage⟩ := mapM_apply hpackages hcomponent
  rw [packageOf] at hpackage
  obtain ⟨component', hobj, hpackage⟩ := exceptBind_ok hpackage
  obtain rfl := Json.obj.inj (objOf_ok.1 hobj)
  obtain ⟨type, htype, hpackage⟩ := exceptBind_ok hpackage
  obtain ⟨u, -, hpackage⟩ := exceptBind_ok hpackage
  obtain ⟨type', htype', hany⟩ := hevaluated
  obtain rfl := Except.ok.inj (htype.symm.trans htype')
  rw [hreads.packageTypes, hany, if_neg (by decide)] at hpackage
  obtain ⟨licenses, hlicenses, hpackage⟩ := exceptBind_ok hpackage
  cases hpackage
  have hlisted : ∀ license, license ∈ licenses ↔
      license ∈ (elements component "licenses").flatMap (licenseTexts I) := by
    intro license
    rw [componentLicenses] at hlicenses
    obtain ⟨items, hitems, hlicenses⟩ := exceptBind_ok hlicenses
    cases hlicenses
    rw [elements_eq hitems, sorted, List.mem_insertionSort, List.mem_dedup]
  have hnone := List.flatMap_eq_nil_iff.1 hpackageErrors _ (List.reduceOption_mem_iff.2 hr)
  rw [packageErrors] at hnone
  refine ⟨fun license hlicense => ?_, fun hempty => ?_⟩
  · have hmem := (hlisted license).2 hlicense
    rw [if_neg (List.ne_nil_of_mem hmem)] at hnone
    exact judge_cleared hreads (List.flatMap_eq_nil_iff.1 hnone license hmem)
  · have hnil : licenses = [] := by
      rw [List.eq_nil_iff_forall_not_mem]
      intro license hlicense
      have := (hlisted license).1 hlicense
      rw [hempty] at this
      cases this
    rw [if_pos hnil] at hnone
    split at hnone
    next hmissing => exact hreads.exceptions _ hmissing
    · cases hnone

theorem mem_textIf {value : Json} {text : Str} :
    text ∈ textIf I value ↔ value.truthy = true ∧ text = Py.str I value := by
  rw [textIf]
  split
  next h => simp [h]
  next h => simp [h]

/-- What a component lists is what the gate takes, or a name beside an id. -/
theorem listedTexts_cases {item : Json} {text : Str} (h : text ∈ listedTexts I item) :
    text ∈ licenseTexts I item ∨ ∃ fields license, item = .obj fields ∧
      Py.get fields "license" = .obj license ∧ (Py.get license "id").truthy = true ∧
      (Py.get license "name").truthy = true ∧ text = Py.str I (Py.get license "name") := by
  cases item with
  | obj fields =>
    rw [listedTexts, List.mem_append] at h
    rw [licenseTexts, List.mem_append]
    rcases h with h | h
    · cases hlicense : Py.get fields "license" with
      | obj license =>
        simp only [hlicense, List.mem_append, mem_textIf] at h ⊢
        by_cases hid : (Py.get license "id").truthy = true
        · rcases h with h | ⟨hname, rfl⟩
          · rw [if_pos hid]
            exact .inl (.inl h)
          · exact .inr ⟨fields, license, rfl, hlicense, hid, hname, rfl⟩
        · rw [if_neg hid]
          rcases h with ⟨hid', -⟩ | h
          · exact absurd hid' hid
          · exact .inl (.inl h)
      | _ => simp [hlicense] at h
    · exact .inl (.inr h)
  | _ => cases h

theorem licenseTexts_subset {item : Json} {text : Str} (h : text ∈ licenseTexts I item) :
    text ∈ listedTexts I item := by
  cases item with
  | obj fields =>
    rw [licenseTexts, List.mem_append] at h
    rw [listedTexts, List.mem_append]
    refine h.imp_left fun h => ?_
    cases hlicense : Py.get fields "license" with
    | obj license =>
      simp only [hlicense, List.mem_append] at h ⊢
      split at h
      · exact .inl h
      · exact .inr h
    | _ => simp [hlicense] at h
  | _ => cases h

/-- A bill of materials that passes is covered exactly if the names beside ids are cleared. -/
theorem licensesCovered_iff {summary : LicenseSummary}
    (h : evaluateLicenses I upper sbom policy = .ok (summary, [])) :
    LicensesCovered I upper policy sbom ↔ NamesCleared I upper policy sbom := by
  constructor
  · intro hcovered component item license hcomponent hevaluated hitem hlicense hid hname
    refine hcovered.cleared component hcomponent hevaluated _ (List.mem_flatMap.2 ⟨_, hitem, ?_⟩)
    rw [listedTexts, hlicense]
    exact List.mem_append_left _ (List.mem_append_right _ (mem_textIf.2 ⟨hname, rfl⟩))
  · intro hnames
    refine ⟨fun component hcomponent hevaluated text htext => ?_,
      fun component hcomponent hevaluated hempty => ?_⟩
    · obtain ⟨item, hitem, htext⟩ := List.mem_flatMap.1 htext
      rcases listedTexts_cases htext with htaken | ⟨fields, license, rfl, hlicense, hid, hname, rfl⟩
      · exact (evaluateLicenses_ok h hcomponent hevaluated).1 text
          (List.mem_flatMap.2 ⟨item, hitem, htaken⟩)
      · exact hnames component fields license hcomponent hevaluated hitem hlicense hid hname
    · refine (evaluateLicenses_ok h hcomponent hevaluated).2 ?_
      rw [List.flatMap_eq_nil_iff]
      intro item hitem
      rw [List.eq_nil_iff_forall_not_mem]
      intro text htext
      have hlisted : text ∈ listedLicenses I component :=
        List.mem_flatMap.2 ⟨item, hitem, licenseTexts_subset htext⟩
      rw [hempty] at hlisted
      cases hlisted

end

/-- Of a report that passes, no match is Critical, every High one is accepted with a reason, and
every fix has an exception, exactly if nothing is lost; of a bill of materials that passes, every
licence that a component lists is cleared, exactly if the names beside ids are. -/
theorem supply_chain_pass_exact (I : Interpreter) (C : Calendar) (upper : Str → Str)
    (report baseline sbom policy : Obj) :
    (∀ summary, evaluateVulnerabilities I C report baseline = .ok (summary, []) →
      (FindingsCovered I report baseline ↔ NothingLost I report baseline)) ∧
    (∀ summary, evaluateLicenses I upper sbom policy = .ok (summary, []) →
      (LicensesCovered I upper policy sbom ↔ NamesCleared I upper policy sbom)) :=
  ⟨fun _ h => (evaluateVulnerabilities_ok h).covered_iff, fun _ h => licensesCovered_iff h⟩

/-! ## A gate -/

namespace Gate

def interpreter : Interpreter where
  sha256 b := Py.ofNat b.length
  loads _ := .decodeError
  fromisoformat _ := none
  urlsplit _ := none
  hmacSha1 _ _ := []
  isprintable c := !Py.isSurrogate c
  surrogate := Py.not_isSurrogate

/-- The year 2026, and the last day of the year 2999. -/
def calendar : Calendar where
  fromisoformat s :=
    if s = lit "2999-12-31" then .ok 1095362 else .error (.valueError "Invalid isoformat string")
  isoformat _ := lit "2999-12-31"
  today := 739849

/-- An object of texts. -/
def texts (fields : List (String × String)) : Obj := fields.map fun m => (lit m.1, .str (lit m.2))

/-- A High match that lists fix versions. -/
def finding (versions : List Json) : Obj :=
  [(lit "artifact", .obj (texts [("type", "python"), ("name", "tar"), ("version", "1.0.0")])),
    (lit "vulnerability", .obj (texts [("id", "CVE-2099-0001"), ("severity", "High")] ++
      [(lit "fix", .obj [(lit "versions", .arr versions)])]))]

/-- The same finding twice; only the first match lists a fix. -/
def report : Obj :=
  [(lit "matches", .arr [.obj (finding [.str (lit "1.0.1")]), .obj (finding [])])]

/-- An entry of the finding. -/
def entry (members : Obj) : Obj :=
  texts [("package_type", "python"), ("package", "tar"), ("version", "1.0.0"),
    ("vulnerability", "CVE-2099-0001"), ("severity", "High")] ++ members

def baseline (members : Obj) : Obj :=
  [(lit "expires_on", .str (lit "2999-12-31")), (lit "accepted", .arr [.obj (entry members)])]

/-- A package with one licence object. -/
def sbom (license : Obj) : Obj :=
  [(lit "components", .arr [.obj (texts [("name", "tar"), ("version", "1.0.0")] ++
    [(lit "properties", .arr [.obj (texts [("name", "syft:package:type"), ("value", "python")])]),
      (lit "licenses", .arr [.obj [(lit "license", .obj license)]])])])]

def policy : Obj :=
  [(lit "package_types", .arr [.str (lit "python")]),
    (lit "allowed_licenses", .arr [.str (lit "MIT")]),
    (lit "denied_tokens", .arr [.str (lit "GPL")])]

end Gate

theorem supply_chain_pass_exact_sample :
    (∃ summary, evaluateVulnerabilities Gate.interpreter Gate.calendar Gate.report
        (Gate.baseline (Gate.texts [("reason", "reviewed"), ("fix_exception", "pinned")])) =
          .ok (summary, []) ∧
      (FindingsCovered Gate.interpreter Gate.report
          (Gate.baseline (Gate.texts [("reason", "reviewed"), ("fix_exception", "pinned")])) ↔
        NothingLost Gate.interpreter Gate.report
          (Gate.baseline (Gate.texts [("reason", "reviewed"), ("fix_exception", "pinned")])))) ∧
    (∃ summary, evaluateLicenses Gate.interpreter Py.upper (Gate.sbom (Gate.texts [("id", "MIT")]))
        Gate.policy = .ok (summary, []) ∧
      (LicensesCovered Gate.interpreter Py.upper Gate.policy
          (Gate.sbom (Gate.texts [("id", "MIT")])) ↔
        NamesCleared Gate.interpreter Py.upper Gate.policy
          (Gate.sbom (Gate.texts [("id", "MIT")])))) :=
  have hpass := supply_chain_pass_exact Gate.interpreter Gate.calendar Py.upper Gate.report
    (Gate.baseline (Gate.texts [("reason", "reviewed"), ("fix_exception", "pinned")]))
    (Gate.sbom (Gate.texts [("id", "MIT")])) Gate.policy
  ⟨⟨_, rfl, hpass.1 _ rfl⟩, ⟨_, rfl, hpass.2 _ rfl⟩⟩

/-- The entry in force of a sample baseline is its one entry. -/
theorem Gate.not_acceptedWith {members item : Obj} {name : String}
    (h : ¬ Filled interpreter (entry members) name) :
    ¬ AcceptedWith interpreter (baseline members) item name := by
  rintro ⟨key, found, -, hfound, hfilled⟩
  have hpairs : acceptedPairs interpreter (baseline members) =
      [(⟨lit "python", lit "tar", lit "1.0.0", lit "CVE-2099-0001", lit "High"⟩, entry members)] :=
    rfl
  have hmem := lastValue_mem hfound
  rw [hpairs, List.mem_singleton, Prod.mk.injEq] at hmem
  exact h (hmem.2 ▸ hfilled)

/-- A fix goes without an exception, since a later match with the same key lists none; `null` passes
for a reason; and a name with a denied token passes beside an id. -/
theorem replaced_fix_passes :
    (∃ summary, evaluateVulnerabilities Gate.interpreter Gate.calendar Gate.report
        (Gate.baseline (Gate.texts [("reason", "reviewed")])) = .ok (summary, []) ∧
      ¬ FindingsCovered Gate.interpreter Gate.report
        (Gate.baseline (Gate.texts [("reason", "reviewed")]))) ∧
    (∃ summary, evaluateVulnerabilities Gate.interpreter Gate.calendar
        [(lit "matches", .arr [.obj (Gate.finding [])])]
        (Gate.baseline [(lit "reason", .null)]) = .ok (summary, []) ∧
      ¬ FindingsCovered Gate.interpreter [(lit "matches", .arr [.obj (Gate.finding [])])]
        (Gate.baseline [(lit "reason", .null)])) ∧
    (∃ summary, evaluateLicenses Gate.interpreter Py.upper
        (Gate.sbom (Gate.texts [("id", "MIT"), ("name", "GPL-3.0-only")])) Gate.policy =
          .ok (summary, []) ∧
      ¬ LicensesCovered Gate.interpreter Py.upper Gate.policy
        (Gate.sbom (Gate.texts [("id", "MIT"), ("name", "GPL-3.0-only")]))) := by
  refine ⟨⟨_, rfl, fun h => ?_⟩, ⟨_, rfl, fun h => ?_⟩, ⟨_, rfl, fun h => ?_⟩⟩
  · refine Gate.not_acceptedWith (fun hfilled => hfilled.text rfl)
      (h.fixable (Gate.finding [.str (lit "1.0.1")]) List.mem_cons_self rfl
        ⟨[lit "1.0.1"], rfl, by rintro ⟨⟩⟩)
  · have hnull : ¬ Filled Gate.interpreter (Gate.entry [(lit "reason", .null)]) "reason" :=
      fun hfilled => absurd hfilled.truthy (by decide)
    exact Gate.not_acceptedWith hnull (h.high (Gate.finding []) List.mem_cons_self rfl)
  · have hdenied : ¬ Denied Gate.interpreter Py.upper Gate.policy (lit "GPL-3.0-only") :=
      (h.cleared _ List.mem_cons_self ⟨.str (lit "python"), rfl, rfl⟩ (lit "GPL-3.0-only")
        (List.mem_cons_of_mem _ List.mem_cons_self)).not_denied
    exact hdenied ⟨.str (lit "GPL"), List.mem_cons_self, [], lit "-3.0-ONLY", rfl⟩

end AgencyRuntime.Scripts
