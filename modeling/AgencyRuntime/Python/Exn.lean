import AgencyRuntime.Python.Str

/-!
# Exceptions

One inductive for the exception classes the runtime raises and catches, with the data its handlers
read. A class that Python derives from another is caught with its base: `Exn.isValueError` is
`except ValueError`.
-/

namespace AgencyRuntime

/-- No control character, DEL or surrogate. -/
def Py.isPrintable (s : Str) : Bool := s.all fun c => 32 ≤ c.val && c.val ≠ 127 && !isSurrogate c

/-- What `SocialPublicationProviderRejectedError` carries. Its constructor keeps diagnostics to
digits and plain tokens, so all of it can be stored. -/
structure ProviderRejection where
  message : String
  phase : Str
  statusCode : Nat
  providerCode : Str
  providerSubcode : Str
  errorType : Str
  printable : ∀ s ∈ [phase, providerCode, providerSubcode, errorType], Py.isPrintable s = true
deriving DecidableEq, Repr

/-- The exceptions of the runtime. -/
inductive Exn
  | valueError (message : String)
  | unicodeEncodeError
  | typeError (message : String)
  | recursionError
  | keyError (message : String)
  | indexError
  | runtimeError (message : String)
  | stopIteration
  | overflowError
  | integrityError
  | httpError
  | invalidUrl
  | socialTokenDecryption
  | socialPublicationUnavailable (message : String)
  | socialPublicationBlocked (status : String)
  | socialPublicationProviderRejected (rejection : ProviderRejection)
  | socialPublicationUnknown (message : String)
  | socialPublicationConflict (message : String)
  | socialPublicationState (message : String)
  | modelEffectUnavailable (message : String)
  | modelEffectBlocked (status : String)
  | modelEffectUnknown (message : String)
  | modelEffectConflict (message : String)
  | modelEffectState (message : String)
  | modelGatewayDisabled (message : String)
  | modelGatewayConfiguration (message : String)
  | modelGatewayProvider (message : String)
  | greenlight (message : String)
  | politicalReviewerSeparation (message : String)
  | idempotencyConflict (message : String)
  | auditEventConflict (message : String)
  | auditIntegrity (message : String)
  | runStateConflict (message : String)
  | publicationMediaConflict (message : String)
  | publicationMediaValidation (message : String)
  | authenticationRateLimit (retryAfterSeconds : Int)
  | authenticatedRequestRateLimit (retryAfterSeconds : Int)
  | socialOAuthStore (message : String)
  | socialOAuthStateUnavailable (message : String)
  | sessionAuthentication (message : String)
  | sessionCsrf (message : String)
  | authConfiguration (message : String)
  | authentication (message : String)
  | backup (message : String)
  | databaseError (message : String)
deriving DecidableEq, Repr

/-- `except ValueError` catches it: `UnicodeEncodeError` and `AuthConfigurationError` derive from
`ValueError`. -/
def Exn.isValueError : Exn → Bool
  | .valueError _ | .unicodeEncodeError | .authConfiguration _ => true
  | _ => false

/-- `except GreenlightError` catches it: `PoliticalReviewerSeparationError` derives from it. -/
def Exn.isGreenlight : Exn → Bool
  | .greenlight _ | .politicalReviewerSeparation _ => true
  | _ => false

/-- Raise `e` unless the condition holds. -/
def check (c : Prop) [Decidable c] (e : Exn) : Except Exn Unit :=
  if c then .ok () else .error e

@[simp] theorem check_ok {c : Prop} [Decidable c] {e : Exn} {u : Unit} :
    check c e = .ok u ↔ c := by
  unfold check; split <;> simp [*]

@[simp] theorem check_error {c : Prop} [Decidable c] {e e' : Exn} :
    check c e = .error e' ↔ ¬ c ∧ e = e' := by
  unfold check; split <;> simp [*]

/-- `require_non_empty` (utils.py) -/
def requireNonEmpty (value : Str) (fieldName : String) : Except Exn Unit :=
  check (value ≠ [] ∧ Py.strip value ≠ []) (.valueError (fieldName ++ " must not be empty"))

/-- A text that `require_non_empty` accepts is not blank. -/
theorem requireNonEmpty_ok {value : Str} {fieldName : String} {u : Unit} :
    requireNonEmpty value fieldName = .ok u ↔ Py.strip value ≠ [] := by
  rw [requireNonEmpty, check_ok, and_iff_right_iff_imp]
  rintro h rfl
  exact h rfl

/-- A sequence of steps that succeeds succeeds at each step. -/
theorem exceptBind_ok {α β : Type} {x : Except Exn α} {f : α → Except Exn β} {b : β}
    (h : (x >>= f) = .ok b) : ∃ a, x = .ok a ∧ f a = .ok b := by
  cases x with
  | error e => cases h
  | ok a => exact ⟨a, rfl, h⟩

theorem exceptBind_ok_iff {α β : Type} {x : Except Exn α} {f : α → Except Exn β} {b : β} :
    (x >>= f) = .ok b ↔ ∃ a, x = .ok a ∧ f a = .ok b := by
  refine ⟨exceptBind_ok, ?_⟩
  rintro ⟨a, rfl, h⟩
  exact h

/-- A check that succeeds, before a step that does. -/
theorem checkBind_ok {c : Prop} [Decidable c] {e : Exn} {α : Type} {x : Except Exn α} {a : α} :
    (check c e >>= fun _ => x) = .ok a ↔ c ∧ x = .ok a := by
  simp only [exceptBind_ok_iff, check_ok, exists_and_left, exists_const]

/-- Every exception of the computation satisfies `p`. -/
def RaisesOnly {α : Type} (p : Exn → Prop) (x : Except Exn α) : Prop := ∀ e, x = .error e → p e

theorem RaisesOnly.ok {α : Type} {p : Exn → Prop} (a : α) : RaisesOnly p (.ok a) := nofun

theorem RaisesOnly.check {p : Exn → Prop} {c : Prop} [Decidable c] {e : Exn} (h : p e) :
    RaisesOnly p (check c e) :=
  fun _ he => (check_error.1 he).2 ▸ h

theorem RaisesOnly.bind {α β : Type} {p : Exn → Prop} {x : Except Exn α} {f : α → Except Exn β}
    (h : RaisesOnly p x) (hf : ∀ a, RaisesOnly p (f a)) : RaisesOnly p (x >>= f) := by
  intro e he
  cases x with
  | error _ => cases he; exact h _ rfl
  | ok a => exact hf a e he

/-- A text inside a message; a lone surrogate cannot be shown. -/
def Py.display (s : Str) : String := .ofList (s.map fun c => Char.ofNat c.val)

/-- `str.encode("utf-8")`, which raises on a lone surrogate. -/
def Py.encode (s : Str) : Except Exn Bytes :=
  if encodable s then .ok (utf8 s) else .error .unicodeEncodeError

/-- `urllib.parse.quote(s, safe=…)` -/
def Py.quote (safe : String) (s : Str) : Except Exn Str := do
  return (← encode s).flatMap (quoteByte safe)

/-- `hmac.compare_digest` on two texts, which must be ASCII. -/
def Py.compareDigest (a b : Str) : Except Exn Bool :=
  if isascii a && isascii b then .ok (a == b)
  else .error (.typeError "comparing strings with non-ASCII characters is not supported")

@[simp] theorem Py.encode_ok {s : Str} {b : Bytes} :
    encode s = .ok b ↔ encodable s = true ∧ utf8 s = b := by
  unfold encode; split <;> simp [*]

@[simp] theorem Py.encode_error {s : Str} {e : Exn} :
    encode s = .error e ↔ encodable s = false ∧ e = .unicodeEncodeError := by
  unfold encode
  cases h : encodable s with
  | true => simp
  | false => simpa using ⟨Eq.symm, Eq.symm⟩

/-- `compare_digest` succeeds exactly on two ASCII texts. -/
theorem Py.compareDigest_ok {a b : Str} {r : Bool} :
    compareDigest a b = .ok r ↔ (isascii a && isascii b) = true ∧ (a == b) = r := by
  unfold compareDigest
  split
  · next h => rw [h, Except.ok.injEq]; simp only [true_and]
  · next h =>
    refine ⟨nofun, fun h' => absurd h'.1 h⟩

theorem Py.compareDigest_error {a b : Str} {e : Exn} (h : compareDigest a b = .error e) :
    (isascii a && isascii b) = false ∧ ∃ m, e = .typeError m := by
  unfold compareDigest at h
  split at h
  · cases h
  · next hc => cases h; exact ⟨Bool.eq_false_iff.2 hc, _, rfl⟩

end AgencyRuntime
