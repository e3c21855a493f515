import AgencyRuntime.Advisory.Protocol

/-!
# Requests with a key and a binding

A request of an owner has an idempotency key and a binding, each unique for its owner. The rows that
answer it are the one with its key and the one with its binding (`Identity.selectors`); a row with
its binding is replayed, and any other is a conflict (`Identity.answer`).
-/

namespace Advisory

open Tables

variable {α K β ε T D : Type} {S : Schema α}

/-- Where a row keeps its owner, its key and its binding; each of the last two is unique for its
owner. -/
structure Identity (S : Schema α) (T D : Type) where
  owner : S.Key → T
  key : S.Key → D
  binding : S.Key → D
  clash_key : ∀ {k l}, owner k = owner l → key k = key l → S.clash k l = true
  clash_binding : ∀ {k l}, owner k = owner l → binding k = binding l → S.clash k l = true

namespace Identity

section
variable [BEq T] [BEq D] (I : Identity S T D)

/-- The key is that of the request. -/
def sameKey (x : α) (k : S.Key) : Bool :=
  I.owner k == I.owner (S.key x) && I.key k == I.key (S.key x)

/-- The binding is that of the request. -/
def sameBinding (x : α) (k : S.Key) : Bool :=
  I.owner k == I.owner (S.key x) && I.binding k == I.binding (S.key x)

/-- A row with the key answers before one with the binding. -/
def selectors (x : α) : List (S.Key → Bool) := [I.sameKey x, I.sameBinding x]

end

/-- A row has the owner, the key and the binding of a request. -/
structure Keeps (I : Identity S T D) (x row : α) : Prop where
  owner : I.owner (S.key row) = I.owner (S.key x)
  key : I.key (S.key row) = I.key (S.key x)
  binding : I.binding (S.key row) = I.binding (S.key x)

/-- Rows have a key or a binding in common where their requests have. -/
theorem Keeps.same [BEq T] [BEq D] {I : Identity S T D} {x row y row' : α} (h : I.Keeps x row)
    (h' : I.Keeps y row') :
    (I.sameKey row' (S.key row) || I.sameBinding row' (S.key row)) =
      (I.sameKey y (S.key x) || I.sameBinding y (S.key x)) := by
  simp only [sameKey, sameBinding, h.owner, h.key, h.binding, h'.owner, h'.key, h'.binding]

/-- What is made of the outcome of a request. -/
def answer [DecidableEq D] (I : Identity S T D) (keyConflict bindingConflict violation : ε)
    (replay execute : α → β) (x : α) : Outcome α → Except ε β
  | .existing row =>
    if I.key (S.key row) = I.key (S.key x) ∧ I.binding (S.key row) ≠ I.binding (S.key x) then
      .error keyConflict
    else if I.binding (S.key row) ≠ I.binding (S.key x) then .error bindingConflict
    else .ok (replay row)
  | .inserted => .ok (execute x)
  | .violated => .error violation

/-- A replayed row is not one to execute. -/
theorem answer_existing [DecidableEq D] {I : Identity S T D} {executes : Except ε β → Bool}
    {keyConflict bindingConflict violation : ε} {replay execute : α → β}
    (herror : ∀ e, executes (.error e) = false)
    (hreplay : ∀ row, executes (.ok (replay row)) = false) (x : α) (o : Outcome α)
    (h : executes (I.answer keyConflict bindingConflict violation replay execute x o) = true) :
    o = .inserted := by
  cases o with
  | inserted => rfl
  | violated =>
    rw [answer, herror] at h
    cases h
  | existing row =>
    have hno : executes (I.answer keyConflict bindingConflict violation replay execute x
        (.existing row)) = false := by
      unfold answer
      dsimp only
      split
      · exact herror _
      · split
        · exact herror _
        · exact hreplay row
    rw [hno] at h
    cases h

section
variable [BEq T] [LawfulBEq T] [BEq D] [LawfulBEq D] {I : Identity S T D} {P : Protocol S K β}
  {x : α} {t : Table S}

theorem sameKey_iff {k : S.Key} :
    I.sameKey x k = true ↔ I.owner k = I.owner (S.key x) ∧ I.key k = I.key (S.key x) := by
  rw [sameKey, Bool.and_eq_true, beq_iff_eq, beq_iff_eq]

theorem sameBinding_iff {k : S.Key} :
    I.sameBinding x k = true ↔
      I.owner k = I.owner (S.key x) ∧ I.binding k = I.binding (S.key x) := by
  rw [sameBinding, Bool.and_eq_true, beq_iff_eq, beq_iff_eq]

omit [LawfulBEq T] [LawfulBEq D] in
/-- The row that answers is the one with the key, or else the one with the binding. -/
theorem priorRow_eq (hsel : P.selectors x = I.selectors x) :
    P.priorRow x t = (t.rows.find? fun row => I.sameKey x (S.key row)).or
      (t.rows.find? fun row => I.sameBinding x (S.key row)) := by
  rw [Protocol.priorRow, hsel, selectors, List.findSome?_cons, List.findSome?_cons,
    List.findSome?_nil]
  cases t.rows.find? fun row => I.sameKey x (S.key row) with
  | some row => rfl
  | none =>
    cases t.rows.find? fun row => I.sameBinding x (S.key row) with
    | some row => rfl
    | none => rfl

theorem exact (hsel : ∀ x, P.selectors x = I.selectors x)
    (hkeeps : ∀ x row, P.store x = some row → I.Keeps x row) : P.Exact := by
  intro x row hstore sel hmem key hkey
  have hkept := hkeeps x row hstore
  rw [hsel] at hmem
  rcases List.mem_pair.1 hmem with rfl | rfl
  · obtain ⟨howner, hsame⟩ := sameKey_iff.1 hkey
    exact I.clash_key (howner.trans hkept.owner.symm) (hsame.trans hkept.key.symm)
  · obtain ⟨howner, hsame⟩ := sameBinding_iff.1 hkey
    exact I.clash_binding (howner.trans hkept.owner.symm) (hsame.trans hkept.binding.symm)

/-- Requests with one key, and requests with one binding, share a lock. -/
theorem guarded (hsel : ∀ x, P.selectors x = I.selectors x)
    (hkeeps : ∀ x row, P.store x = some row → I.Keeps x row)
    (hkey : ∀ x y, P.Admitted x → P.Admitted y → I.owner (S.key x) = I.owner (S.key y) →
      I.key (S.key x) = I.key (S.key y) → ∃ k ∈ P.lockKeys x, k ∈ P.lockKeys y)
    (hbinding : ∀ x y, P.Admitted x → P.Admitted y → I.owner (S.key x) = I.owner (S.key y) →
      I.binding (S.key x) = I.binding (S.key y) → ∃ k ∈ P.lockKeys x, k ∈ P.lockKeys y) :
    P.Guarded := by
  intro x y row hx hy hstore sel hmem hrow
  have hkept := hkeeps y row hstore
  rw [hsel] at hmem
  rcases List.mem_pair.1 hmem with rfl | rfl
  · obtain ⟨howner, hsame⟩ := sameKey_iff.1 hrow
    exact hkey x y hx hy (howner.symm.trans hkept.owner) (hsame.symm.trans hkept.key)
  · obtain ⟨howner, hsame⟩ := sameBinding_iff.1 hrow
    exact hbinding x y hx hy (howner.symm.trans hkept.owner) (hsame.symm.trans hkept.binding)

end

end Identity

end Advisory
