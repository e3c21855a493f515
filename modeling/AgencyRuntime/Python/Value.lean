import AgencyRuntime.Python.Canonical
import AgencyRuntime.Python.Utf8

/-!
# Runtime values and their primitives

The values the runtime hands to `canonical_json`: primitives, members of its enumerations (which are
enumerations of texts), lists and tuples, dictionaries (a dataclass is the dictionary of its fields)
and objects that JSON has no form for. `to_primitive` (utils.py) makes JSON of them.
-/

namespace AgencyRuntime

/-- A runtime value. A key of a dictionary is kept as its `key_text`. -/
inductive Value (F : Floats)
  | null
  | bool (b : Bool)
  | int (n : Int)
  | float (r : {r : Str // IsFloatText F.text r})
  | str (s : Str)
  | member (value : Str)
  | seq (items : List (Value F))
  | dict (entries : List (Str × Value F))
  | object

variable {F : Floats}

mutual

/-- `to_primitive`; `none` where an object is left that `json.dumps` rejects. -/
def Value.toPrimitive : Value F → Option Json
  | .null => some .null
  | .bool b => some (.bool b)
  | .int n => some (.int n)
  | .float r => some (.float r.1)
  | .str s => some (.str s)
  | .member value => some (.str value)
  | .seq items => (primitiveItems items).map .arr
  | .dict entries => (primitiveEntries entries).map fun fields => .obj (dictOf (sortFields fields))
  | .object => none

def primitiveItems : List (Value F) → Option (List Json)
  | [] => some []
  | v :: vs => v.toPrimitive.bind fun j => (primitiveItems vs).map (j :: ·)

def primitiveEntries : List (Str × Value F) → Option (List (Str × Json))
  | [] => some []
  | (key, v) :: rest =>
    v.toPrimitive.bind fun j => (primitiveEntries rest).map ((key, j) :: ·)

end

/-- `json.dumps` of what `to_primitive` returned. -/
def dumps : Option Json → Except Exn Str
  | none => .error (.typeError "Object is not JSON serializable")
  | some j => canonicalJson j

/-- `canonical_json(value)` -/
def Value.canonicalJson (v : Value F) : Except Exn Str := dumps v.toPrimitive

mutual

/-- A primitive whose numbers can be written is well formed. -/
theorem Value.toPrimitive_wellFormed : ∀ (v : Value F) {j : Json}, v.toPrimitive = some j →
    j.renderable = true → j.WellFormed F
  | .null, _, h, _ => by cases h; exact .null
  | .bool b, _, h, _ => by cases h; exact .bool b
  | .int n, _, h, hr => by
    cases h
    rw [Json.renderable, decide_eq_true_eq] at hr
    exact .int hr
  | .float r, _, h, _ => by cases h; exact .float r.2
  | .str s, _, h, _ => by cases h; exact .str s
  | .member value, _, h, _ => by cases h; exact .str value
  | .seq items, _, h, hr => by
    rw [Value.toPrimitive] at h
    obtain ⟨js, hjs, rfl⟩ := Option.map_eq_some_iff.1 h
    rw [Json.renderable, renderableItems_eq, List.all_eq_true] at hr
    exact .arr (primitiveItems_wellFormed items hjs hr)
  | .dict entries, _, h, hr => by
    rw [Value.toPrimitive] at h
    obtain ⟨fields, hfields, rfl⟩ := Option.map_eq_some_iff.1 h
    rw [Json.renderable, renderableFields_eq, List.all_eq_true] at hr
    obtain ⟨hnames, hsub⟩ := dictOf_spec (sortFields fields)
    refine .obj hnames fun m hm => ?_
    exact primitiveEntries_wellFormed entries hfields m (mem_sortFields.1 (hsub m hm)) (hr m hm)
  | .object, _, h, _ => by cases h

theorem primitiveItems_wellFormed : ∀ (vs : List (Value F)) {js : List Json},
    primitiveItems vs = some js → (∀ j ∈ js, j.renderable = true) → ∀ j ∈ js, j.WellFormed F
  | [], _, h, _ => by cases h; simp
  | v :: vs, _, h, hr => by
    rw [primitiveItems] at h
    obtain ⟨j, hj, h⟩ := Option.bind_eq_some_iff.1 h
    obtain ⟨js, hjs, rfl⟩ := Option.map_eq_some_iff.1 h
    rw [List.forall_mem_cons] at hr ⊢
    exact ⟨v.toPrimitive_wellFormed hj hr.1, primitiveItems_wellFormed vs hjs hr.2⟩

theorem primitiveEntries_wellFormed : ∀ (es : List (Str × Value F)) {fields : List (Str × Json)},
    primitiveEntries es = some fields → ∀ m ∈ fields, m.2.renderable = true → m.2.WellFormed F
  | [], _, h => by cases h; simp
  | (key, v) :: rest, _, h => by
    rw [primitiveEntries] at h
    obtain ⟨j, hj, h⟩ := Option.bind_eq_some_iff.1 h
    obtain ⟨fields, hfields, rfl⟩ := Option.map_eq_some_iff.1 h
    rw [List.forall_mem_cons]
    exact ⟨v.toPrimitive_wellFormed hj, primitiveEntries_wellFormed rest hfields⟩

end

/-- What `json.dumps` writes is the canonical text of a well-formed value. -/
theorem dumps_ok {v : Value F} {s : Str} (h : dumps v.toPrimitive = .ok s) :
    ∃ j, v.toPrimitive = some j ∧ j.WellFormed F ∧ canonicalText j = s := by
  cases hv : v.toPrimitive with
  | none => rw [hv] at h; cases h
  | some j =>
    rw [hv, dumps, AgencyRuntime.canonicalJson] at h
    split at h
    · next hr => exact ⟨j, rfl, v.toPrimitive_wellFormed hv hr, Except.ok.inj h⟩
    · cases h

end AgencyRuntime
