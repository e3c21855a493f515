import AgencyRuntime.Python.Records
import AgencyRuntime.Python.Value

/-!
# Canonical JSON as a normal form

What a value means: an object is a map from names to values, an array a list of values, whichever
way the value spells them (`Meaning`). Two decoded values have one canonical text exactly when they
have one meaning, and so have two runtime values without floats, enumerations or objects
(`PlainValue`) whose integers can be written.
-/

namespace AgencyRuntime

/-- What a value means, with no order of members. -/
inductive Meaning
  | null
  | bool (b : Bool)
  | int (n : Int)
  | float (repr : Str)
  | str (s : Str)
  | array (items : List Meaning)
  | object (members : Str → Option Meaning)

mutual

/-- The meaning of a decoded value. -/
def Json.meaning : Json → Meaning
  | .null => .null
  | .bool b => .bool b
  | .int n => .int n
  | .float r => .float r
  | .str s => .str s
  | .arr items => .array (meaningItems items)
  | .obj fields => .object (meaningFields fields)

def meaningItems : List Json → List Meaning
  | [] => []
  | x :: xs => x.meaning :: meaningItems xs

def meaningFields : List (Str × Json) → Str → Option Meaning
  | [], _ => none
  | (name, x) :: rest, key => if key == name then some x.meaning else meaningFields rest key

end

theorem meaningItems_eq (items : List Json) : meaningItems items = items.map Json.meaning := by
  induction items with
  | nil => rfl
  | cons x xs ih => rw [meaningItems, ih, List.map_cons]

theorem meaningFields_eq (fields : List (Str × Json)) (key : Str) :
    meaningFields fields key = (fields.lookup key).map Json.meaning := by
  induction fields with
  | nil => rfl
  | cons m fields ih =>
    rw [meaningFields, List.lookup_cons]
    split
    · next h => rw [h]; rfl
    · next h =>
      rw [Bool.not_eq_true] at h
      rw [h, ih]

section
variable {F : Floats}

/-- A value means what its normal form means. -/
theorem Json.WellFormed.meaning_normal {j : Json} (h : j.WellFormed F) :
    j.normal.meaning = j.meaning := by
  induction h with
  | null | bool | int | float | str => rfl
  | @arr items _ ih =>
    rw [normal_arr, Json.meaning, Json.meaning, meaningItems_eq, meaningItems_eq, List.map_map]
    exact congrArg _ (List.map_congr_left ih)
  | @obj fields hnodup _ ih =>
    rw [normal_eq_members, Json.meaning, Json.meaning]
    refine congrArg _ (funext fun key => ?_)
    rw [meaningFields_eq, meaningFields_eq, members, lookup_map, lookup_sortFields]
    cases hlookup : fields.lookup key with
    | none => rfl
    | some x => exact congrArg some (ih (key, x) ((lookup_eq_some hnodup).1 hlookup))

/-- Members in the order of their names, where names and values are the same. -/
theorem sortFields_congr {α β γ : Type} {f : α → γ} {g : β → γ} {fields : List (Str × α)}
    {fields' : List (Str × β)} (h : (fields.map Prod.fst).Nodup) (h' : (fields'.map Prod.fst).Nodup)
    (hsame : ∀ name, (fields.lookup name).map f = (fields'.lookup name).map g) :
    (sortFields fields).map (fun m => (m.1, f m.2)) =
      (sortFields fields').map fun m => (m.1, g m.2) := by
  have hnodup {α : Type} {f : α → γ} {fields : List (Str × α)} (h : (fields.map Prod.fst).Nodup) :
      (((sortFields fields).map fun m => (m.1, f m.2)).map Prod.fst).Nodup := by
    rw [List.map_map]
    exact nodup_sortFields h
  have hsorted {α : Type} {f : α → γ} {fields : List (Str × α)} (h : (fields.map Prod.fst).Nodup) :
      ((sortFields fields).map fun m => (m.1, f m.2)).Pairwise fun a b => a.1 < b.1 := by
    have hle := List.pairwise_insertionSort (fun a b : Str × α => a.1 ≤ b.1) fields
    refine List.pairwise_map.2 ?_
    exact (hle.and (List.pairwise_map.1 (nodup_sortFields h))).imp fun h => lt_of_le_of_ne h.1 h.2
  have : Std.Irrefl fun a b : Str × γ => a.1 < b.1 := ⟨fun a => lt_irrefl a.1⟩
  have : Std.Antisymm fun a b : Str × γ => a.1 < b.1 :=
    ⟨fun a b hab hba => absurd hba (lt_asymm hab)⟩
  refine List.Pairwise.eq_of_mem_iff (hsorted h) (hsorted h') fun m => ?_
  rw [← lookup_eq_some (hnodup h), ← lookup_eq_some (hnodup h'), lookup_map, lookup_map,
    lookup_sortFields, lookup_sortFields, hsame]

/-- Lists with the same images under one pair of functions have them under another. -/
theorem map_congr_of {α β γ δ : Type} {f : α → γ} {f' : β → γ} {g : α → δ} {g' : β → δ}
    {xs : List α} {ys : List β} (h : xs.map f = ys.map f')
    (hg : ∀ x ∈ xs, ∀ y ∈ ys, f x = f' y → g x = g' y) : xs.map g = ys.map g' := by
  induction xs generalizing ys with
  | nil =>
    cases ys with
    | nil => rfl
    | cons y ys => cases h
  | cons x xs ih =>
    cases ys with
    | nil => cases h
    | cons y ys =>
      obtain ⟨hhead, htail⟩ := List.cons.inj h
      rw [List.map_cons, List.map_cons, hg x List.mem_cons_self y List.mem_cons_self hhead]
      refine congrArg _ (ih htail fun a ha b hb => ?_)
      exact hg a (List.mem_cons_of_mem _ ha) b (List.mem_cons_of_mem _ hb)

/-- Two values of one meaning have one normal form. -/
theorem Json.WellFormed.normal_eq {j k : Json} (hj : j.WellFormed F) (hk : k.WellFormed F)
    (h : j.meaning = k.meaning) : j.normal = k.normal := by
  induction hj generalizing k with
  | null => cases k <;> cases h; rfl
  | bool b => cases k <;> cases h; rfl
  | int _ => cases k <;> cases h; rfl
  | float _ => cases k <;> cases h; rfl
  | str s => cases k <;> cases h; rfl
  | arr _ ih =>
    cases hk with
    | arr hitems =>
      rw [Json.meaning, Json.meaning, meaningItems_eq, meaningItems_eq, Meaning.array.injEq] at h
      rw [normal_arr, normal_arr]
      exact congrArg _ (map_congr_of h fun x hx y hy => ih x hx (hitems y hy))
    | _ => cases h
  | @obj fields hnodup _ ih =>
    cases hk with
    | @obj fields' hnodup' hfields' =>
      rw [Json.meaning, Json.meaning, Meaning.object.injEq] at h
      rw [normal_obj, normal_obj]
      refine congrArg _ (sortFields_congr hnodup hnodup' fun name => ?_)
      have hname := congrFun h name
      rw [meaningFields_eq, meaningFields_eq] at hname
      cases hx : fields.lookup name with
      | none =>
        rw [hx] at hname
        cases hy : fields'.lookup name with
        | none => rfl
        | some y => rw [hy] at hname; cases hname
      | some x =>
        rw [hx] at hname
        cases hy : fields'.lookup name with
        | none => rw [hy] at hname; cases hname
        | some y =>
          rw [hy] at hname
          have hmem := (lookup_eq_some hnodup').1 hy
          exact congrArg some (ih (name, x) ((lookup_eq_some hnodup).1 hx) (hfields' _ hmem)
            (Option.some.inj hname))
    | _ => cases h

/-- What `canonical_json` writes for a value is the text of a well-formed one. -/
theorem Json.IsValue.wellFormed_of_ok {j : Json} (h : j.IsValue F) {text : Str}
    (htext : canonicalJson j = .ok text) : j.WellFormed F ∧ canonicalText j = text := by
  rw [canonicalJson] at htext
  split at htext
  · next hr => exact ⟨h.wellFormed hr, Except.ok.inj htext⟩
  · cases htext

/-- Members with the same names, no name twice, mean the same only value by value. -/
theorem meaningFields_inj {fields fields' : List (Str × Json)}
    (hnames : fields.map Prod.fst = fields'.map Prod.fst) (hnodup : (fields.map Prod.fst).Nodup)
    (h : meaningFields fields = meaningFields fields') :
    fields.map (fun m => m.2.meaning) = fields'.map fun m => m.2.meaning := by
  induction fields generalizing fields' with
  | nil =>
    cases fields' with
    | nil => rfl
    | cons m' rest' => cases hnames
  | cons m rest ih =>
    cases fields' with
    | nil => cases hnames
    | cons m' rest' =>
      obtain ⟨hname, hrest⟩ := List.cons.inj hnames
      obtain ⟨hnew, hnodup⟩ := List.nodup_cons.1 hnodup
      have hhead := congrFun h m.1
      rw [meaningFields, meaningFields, hname, if_pos (beq_self_eq_true _),
        if_pos (beq_self_eq_true _), Option.some.injEq] at hhead
      rw [List.map_cons, List.map_cons, hhead, ih hrest hnodup]
      funext name
      by_cases heq : name = m.1
      · -- The name of the first members is none of the other names.
        have hnone {fields : List (Str × Json)} (h : m.1 ∉ fields.map Prod.fst) :
            meaningFields fields name = none := by
          rw [meaningFields_eq, heq, List.lookup_eq_none_iff.2 fun n hn => ?_]
          · rfl
          · exact bne_iff_ne.2 fun hsame => h (hsame ▸ List.mem_map_of_mem hn)
        rw [hnone hnew, hnone (hrest ▸ hnew)]
      · have hname' := congrFun h name
        rwa [meaningFields, meaningFields, if_neg (by simpa using heq),
          if_neg (by simpa [← hname] using heq)] at hname'

/-- Two values have one canonical text exactly when they have one meaning. -/
theorem Json.WellFormed.canonicalText_eq {j k : Json} (hj : j.WellFormed F) (hk : k.WellFormed F) :
    canonicalText j = canonicalText k ↔ j.meaning = k.meaning := by
  constructor
  · intro h
    rw [← hj.meaning_normal, ← hk.meaning_normal, normal_eq_of_canonicalText hj hk h]
  · intro h
    rw [← canonicalText_normal hj, ← canonicalText_normal hk, hj.normal_eq hk h]

end

/-- A runtime value of dictionaries with texts as keys, lists, tuples, texts, booleans, `None` and
integers. -/
inductive PlainValue
  | null
  | bool (b : Bool)
  | int (n : Int)
  | str (s : Str)
  | list (items : List PlainValue)
  | tuple (items : List PlainValue)
  | dict (entries : List (Str × PlainValue))

namespace PlainValue

/-- No dictionary holds a key twice. -/
inductive Proper : PlainValue → Prop
  | null : Proper .null
  | bool (b : Bool) : Proper (.bool b)
  | int (n : Int) : Proper (.int n)
  | str (s : Str) : Proper (.str s)
  | list {items : List PlainValue} : (∀ x ∈ items, Proper x) → Proper (.list items)
  | tuple {items : List PlainValue} : (∀ x ∈ items, Proper x) → Proper (.tuple items)
  | dict {entries : List (Str × PlainValue)} : (entries.map Prod.fst).Nodup →
      (∀ m ∈ entries, Proper m.2) → Proper (.dict entries)

mutual

/-- The value as `to_primitive` takes it: lists and tuples are alike to it. -/
def toValue (F : Floats) : PlainValue → Value F
  | .null => .null
  | .bool b => .bool b
  | .int n => .int n
  | .str s => .str s
  | .list items => .seq (toValues F items)
  | .tuple items => .seq (toValues F items)
  | .dict entries => .dict (toEntries F entries)

def toValues (F : Floats) : List PlainValue → List (Value F)
  | [] => []
  | x :: xs => x.toValue F :: toValues F xs

def toEntries (F : Floats) : List (Str × PlainValue) → List (Str × Value F)
  | [] => []
  | (key, x) :: rest => (key, x.toValue F) :: toEntries F rest

end

mutual

/-- What the value means: a list and a tuple of the same values mean the same, and so do two
dictionaries with the same values at the same keys. -/
def meaning : PlainValue → Meaning
  | .null => .null
  | .bool b => .bool b
  | .int n => .int n
  | .str s => .str s
  | .list items => .array (meanings items)
  | .tuple items => .array (meanings items)
  | .dict entries => .object (meaningAt entries)

def meanings : List PlainValue → List Meaning
  | [] => []
  | x :: xs => x.meaning :: meanings xs

def meaningAt : List (Str × PlainValue) → Str → Option Meaning
  | [], _ => none
  | (key, x) :: rest, name => if name == key then some x.meaning else meaningAt rest name

end

mutual

/-- The integers in the value. -/
def ints : PlainValue → List Int
  | .int n => [n]
  | .list items => intsOf items
  | .tuple items => intsOf items
  | .dict entries => intsIn entries
  | _ => []

def intsOf : List PlainValue → List Int
  | [] => []
  | x :: xs => x.ints ++ intsOf xs

def intsIn : List (Str × PlainValue) → List Int
  | [] => []
  | (_, x) :: rest => x.ints ++ intsIn rest

end

/-- Every integer of the value has a decimal text (`maxStrDigits`). -/
def Writable (v : PlainValue) : Prop := ∀ n ∈ v.ints, n.natAbs < 10 ^ maxStrDigits

end PlainValue

section
variable {F : Floats}

/-- A primitive of a plain value: it means the same, and can be written when the value can. -/
def PrimitiveOf (v : PlainValue) (j : Json) : Prop :=
  (v.toValue F).toPrimitive = some j ∧ j.meaning = v.meaning ∧ (j.renderable = true ↔ v.Writable)

theorem forall_mem_append_iff {α : Type} {p : α → Prop} {xs ys : List α} :
    (∀ x ∈ xs ++ ys, p x) ↔ (∀ x ∈ xs, p x) ∧ ∀ y ∈ ys, p y := by
  simp only [List.mem_append, or_imp, forall_and]

/-- The primitives of the items of a list or a tuple. -/
theorem exists_primitiveItems {items : List PlainValue}
    (h : ∀ x ∈ items, ∃ j, PrimitiveOf (F := F) x j) :
    ∃ js, primitiveItems (PlainValue.toValues F items) = some js ∧
      meaningItems js = PlainValue.meanings items ∧
      (renderableItems js = true ↔
        ∀ n ∈ PlainValue.intsOf items, n.natAbs < 10 ^ maxStrDigits) := by
  induction items with
  | nil => exact ⟨[], rfl, rfl, iff_of_true rfl (List.forall_mem_nil _)⟩
  | cons x xs ih =>
    obtain ⟨⟨j, hj, hmeaning, hwrite⟩, hxs⟩ := List.forall_mem_cons.1 h
    obtain ⟨js, hjs, hmeanings, hwrites⟩ := ih hxs
    refine ⟨j :: js, ?_, ?_, ?_⟩
    · rw [PlainValue.toValues, primitiveItems, hj, hjs]
      rfl
    · rw [meaningItems, PlainValue.meanings, hmeaning, hmeanings]
    · rw [renderableItems, Bool.and_eq_true, hwrite, hwrites, PlainValue.intsOf,
        forall_mem_append_iff]
      rfl

/-- The primitives of the entries of a dictionary. -/
theorem exists_primitiveEntries {entries : List (Str × PlainValue)}
    (h : ∀ m ∈ entries, ∃ j, PrimitiveOf (F := F) m.2 j) :
    ∃ fields, primitiveEntries (PlainValue.toEntries F entries) = some fields ∧
      fields.map Prod.fst = entries.map Prod.fst ∧
      meaningFields fields = PlainValue.meaningAt entries ∧
      (renderableFields fields = true ↔
        ∀ n ∈ PlainValue.intsIn entries, n.natAbs < 10 ^ maxStrDigits) := by
  induction entries with
  | nil => exact ⟨[], rfl, rfl, rfl, iff_of_true rfl (List.forall_mem_nil _)⟩
  | cons m rest ih =>
    obtain ⟨⟨j, hj, hmeaning, hwrite⟩, hrest⟩ := List.forall_mem_cons.1 h
    obtain ⟨fields, hfields, hkeys, hmeanings, hwrites⟩ := ih hrest
    refine ⟨(m.1, j) :: fields, ?_, ?_, ?_, ?_⟩
    · rw [PlainValue.toEntries, primitiveEntries, hj, hfields]
      rfl
    · rw [List.map_cons, List.map_cons, hkeys]
    · funext name
      rw [meaningFields, PlainValue.meaningAt, hmeaning, hmeanings]
    · rw [renderableFields, Bool.and_eq_true, hwrite, hwrites, PlainValue.intsIn,
        forall_mem_append_iff]
      rfl

theorem meaningFields_sortFields (fields : List (Str × Json)) :
    meaningFields (sortFields fields) = meaningFields fields := by
  funext name
  rw [meaningFields_eq, meaningFields_eq, lookup_sortFields]

theorem renderableFields_sortFields (fields : List (Str × Json)) :
    renderableFields (sortFields fields) = renderableFields fields := by
  rw [renderableFields_eq, renderableFields_eq]
  exact (List.perm_insertionSort _ fields).all_eq

/-- `to_primitive` keeps the meaning of every plain value. -/
theorem PlainValue.Proper.exists_primitive {v : PlainValue} (h : v.Proper) :
    ∃ j, PrimitiveOf (F := F) v j := by
  induction h with
  | null => exact ⟨.null, rfl, rfl, iff_of_true rfl (List.forall_mem_nil _)⟩
  | bool b => exact ⟨.bool b, rfl, rfl, iff_of_true rfl (List.forall_mem_nil _)⟩
  | int n =>
    refine ⟨.int n, rfl, rfl, ?_⟩
    rw [Json.renderable, decide_eq_true_eq, PlainValue.Writable, ints, List.forall_mem_singleton]
  | str s => exact ⟨.str s, rfl, rfl, iff_of_true rfl (List.forall_mem_nil _)⟩
  | list _ ih | tuple _ ih =>
    obtain ⟨js, hjs, hmeaning, hwrite⟩ := exists_primitiveItems ih
    refine ⟨.arr js, ?_, ?_, ?_⟩
    · rw [toValue, Value.toPrimitive, hjs]
      rfl
    · rw [Json.meaning, PlainValue.meaning, hmeaning]
    · rw [Json.renderable, hwrite]
      rfl
  | dict hkeys _ ih =>
    obtain ⟨fields, hfields, hsame, hmeaning, hwrite⟩ := exists_primitiveEntries ih
    have hdict : dictOf (sortFields fields) = sortFields fields :=
      dictOf_eq (nodup_sortFields (hsame ▸ hkeys))
    refine ⟨.obj (sortFields fields), ?_, ?_, ?_⟩
    · rw [toValue, Value.toPrimitive, hfields, Option.map_some, hdict]
    · rw [Json.meaning, PlainValue.meaning, meaningFields_sortFields, hmeaning]
    · rw [Json.renderable, renderableFields_sortFields, hwrite]
      rfl

/-- A value has a canonical text exactly when its integers have decimal ones. -/
theorem PlainValue.Proper.canonicalJson_ok {v : PlainValue} (h : v.Proper) :
    (∃ text, (v.toValue F).canonicalJson = .ok text) ↔ v.Writable := by
  obtain ⟨j, hj, -, hwrite⟩ := h.exists_primitive (F := F)
  rw [← hwrite, Value.canonicalJson, hj, dumps, AgencyRuntime.canonicalJson]
  split
  · next hr => exact iff_of_true ⟨_, rfl⟩ hr
  · next hr =>
    refine iff_of_false ?_ hr
    intro h
    obtain ⟨_, htext⟩ := h
    cases htext

/-- The canonical text of a value decodes, and encodes again as the same text. -/
theorem Value.canonicalJson_again {v : Value F} {text : Str} (h : v.canonicalJson = .ok text) :
    ∃ j, jsonLoads F text = .ok j ∧ AgencyRuntime.canonicalJson j = .ok text := by
  obtain ⟨j, -, hj, rfl⟩ := dumps_ok h
  refine ⟨j.normal, jsonLoads_canonicalText hj, ?_⟩
  rw [canonicalJson_wellFormed hj.normal, canonicalText_normal hj]

/-- Two values that have canonical texts have the same one exactly when they mean the same. -/
theorem PlainValue.Proper.canonicalJson_eq {v w : PlainValue} (hv : v.Proper) (hw : w.Proper)
    {s t : Str} (hs : (v.toValue F).canonicalJson = .ok s)
    (ht : (w.toValue F).canonicalJson = .ok t) : s = t ↔ v.meaning = w.meaning := by
  obtain ⟨j, hj, hjw, rfl⟩ := dumps_ok hs
  obtain ⟨k, hk, hkw, rfl⟩ := dumps_ok ht
  obtain ⟨j', hj', hmeaning, -⟩ := hv.exists_primitive (F := F)
  obtain ⟨k', hk', hmeaning', -⟩ := hw.exists_primitive (F := F)
  cases hj.symm.trans hj'
  cases hk.symm.trans hk'
  rw [hjw.canonicalText_eq hkw, hmeaning, hmeaning']

end

end AgencyRuntime
