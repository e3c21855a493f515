import AgencyRuntime.Python.Canonical
import AgencyRuntime.Python.Repr

/-!
# Reading records

How the runtime reads the members of a decoded object (`item["name"]`, `item.get("name", default)`,
with the conversions `str`, `int` and `bool`), and the lookups in the normal form of an object: the
normal form holds every member under its name (`holds_members`), so what a reader returns there is
what the member was (`strItem_holds` and the like).
-/

namespace AgencyRuntime

/-! ## Names -/

theorem Py.lit_inj {s t : String} : Py.lit s = Py.lit t ↔ s = t := by
  have hlt (c : Char) : c.toNat < 0x110000 := by
    have := c.valid
    unfold UInt32.isValidChar Nat.isValidChar at this
    unfold Char.toNat
    omega
  have hinj : Function.Injective fun c : Char => Fin.ofNat 0x110000 c.toNat := by
    intro c d hcd
    have hval := congrArg Fin.val hcd
    simp only [Fin.ofNat, Nat.mod_eq_of_lt (hlt c), Nat.mod_eq_of_lt (hlt d)] at hval
    exact Char.toNat_inj.1 hval
  constructor
  · intro h
    exact String.toList_inj.1 (hinj.list_map h)
  · rintro rfl
    rfl

/-! ## Readers -/

/-- Iteration over a decoded array. -/
def itemsOf : Json → Except Exn (List Json)
  | .arr items => .ok items
  | _ => .error (.typeError "object is not iterable")

/-- `payload[name]` -/
def Py.item (payload : Obj) (name : String) : Except Exn Json :=
  (payload.lookup (Py.lit name)).elim (.error (.keyError name)) .ok

/-- `payload.get(name, default)` -/
def Py.getOr (payload : Obj) (name : String) (default : Json) : Json :=
  (payload.lookup (Py.lit name)).getD default

/-- `int(value)` of a decoded number or truth value. -/
def intOf : Json → Except Exn Int
  | .int n => .ok n
  | .bool b => .ok (if b then 1 else 0)
  | _ => .error (.typeError "int() argument must be a number")

/-- A text of a decoded array of texts. -/
def textOf : Json → Except Exn Str
  | .str s => .ok s
  | _ => .error (.typeError "not a text")

/-- `tuple(items)` of a decoded array of texts. -/
def textsOf (j : Json) : Except Exn (List Str) := do (← itemsOf j).mapM textOf

/-- The member of an enumeration with a value. -/
def memberOf {α : Type} (members : List α) (value : α → Str) : Json → Except Exn α
  | .str s =>
    (members.find? fun m => value m == s).elim (.error (.valueError "not a valid value")) .ok
  | _ => .error (.valueError "not a valid value")

section
variable (I : Interpreter)

/-- `str(item[name])` -/
def strItem (o : Obj) (name : String) : Except Exn Str := do return Py.str I (← Py.item o name)

/-- `str(item.get(name, default))` -/
def strOr (o : Obj) (name default : String) : Str := Py.str I (Py.getOr o name (.str (Py.lit default)))

/-- `str(item[name]) if item.get(name) is not None else None` -/
def strOption (o : Obj) (name : String) : Option Str :=
  match Py.get o name with
  | .null => none
  | j => some (Py.str I j)

end

/-- A step that succeeds, and what follows it. -/
theorem exceptBind_eq {α β : Type} {x : Except Exn α} {f : α → Except Exn β} {a : α}
    {r : Except Exn β} (hx : x = .ok a) (hf : f a = r) : (x >>= f) = r := by
  rw [hx]
  exact hf

/-! ## Lookups in normal forms -/

/-- The members of a normalised object. -/
def members (fields : Obj) : Obj := (sortFields fields).map fun m => (m.1, m.2.normal)

theorem normal_eq_members (fields : Obj) : (Json.obj fields).normal = .obj (members fields) :=
  normal_obj fields

@[simp] theorem normal_arr (items : List Json) :
    (Json.arr items).normal = .arr (items.map Json.normal) := by
  rw [Json.normal, normalItems_eq]

theorem normal_texts (texts : List Str) : (Json.arr (texts.map .str)).normal = .arr (texts.map .str) := by
  rw [normal_arr, List.map_map]
  rfl

theorem lookup_map {α β : Type} (f : α → β) (d : List (Str × α)) (name : Str) :
    (d.map fun m => (m.1, f m.2)).lookup name = (d.lookup name).map f := by
  induction d with
  | nil => rfl
  | cons m d ih =>
    rw [List.map_cons, lookup_cons_eq, lookup_cons_eq, ih]
    split <;> rfl

/-- A member of a dictionary with distinct names is looked up under its name. -/
theorem lookup_eq_some {α : Type} {d : List (Str × α)} (hd : (d.map Prod.fst).Nodup) {name : Str}
    {x : α} : d.lookup name = some x ↔ (name, x) ∈ d := by
  induction d with
  | nil => simp
  | cons e d ih =>
    rw [List.map_cons, List.nodup_cons] at hd
    rw [lookup_cons_eq, List.mem_cons]
    by_cases hname : name = e.1
    · rw [if_pos hname, Option.some.injEq]
      constructor
      · rintro rfl
        exact .inl (Prod.ext hname rfl)
      · rintro (h | h)
        · rw [← h]
        · exact absurd (List.mem_map_of_mem (f := Prod.fst) h) (hname ▸ hd.1)
    · rw [if_neg hname, ih hd.2]
      constructor
      · exact .inr
      · rintro (h | h)
        · exact absurd (congrArg Prod.fst h) hname
        · exact h

theorem lookup_orderedInsert {α : Type} (e : Str × α) (d : List (Str × α)) (name : Str) :
    (d.orderedInsert (fun a b => a.1 ≤ b.1) e).lookup name =
      if name = e.1 then some e.2 else d.lookup name := by
  induction d with
  | nil => exact lookup_cons_eq e [] name
  | cons m d ih =>
    rw [List.orderedInsert_cons]
    split
    · exact lookup_cons_eq e (m :: d) name
    · next hle =>
      have hne : m.1 ≠ e.1 := fun h => hle (h ▸ le_refl _)
      rw [lookup_cons_eq, lookup_cons_eq, ih]
      by_cases hname : name = e.1
      · rw [if_pos hname, if_pos hname, if_neg fun h => hne (h.symm.trans hname)]
      · rw [if_neg hname, if_neg hname]

/-- Sorting by name keeps what each name stands for. -/
theorem lookup_sortFields {α : Type} (fields : List (Str × α)) (name : Str) :
    (sortFields fields).lookup name = fields.lookup name := by
  induction fields with
  | nil => rfl
  | cons e fields ih =>
    rw [lookup_cons_eq, ← ih]
    exact lookup_orderedInsert e (sortFields fields) name

/-- `o` holds the members of `fields` in normal form. -/
def Holds (o fields : Obj) : Prop := ∀ name, o.lookup name = (fields.lookup name).map Json.normal

theorem holds_members (fields : Obj) : Holds (members fields) fields := by
  intro name
  rw [members, lookup_map, lookup_sortFields]

section
variable {o fields : Obj} {name : String} {I : Interpreter}

theorem item_holds {j : Json} (h : Holds o fields) (hj : fields.lookup (Py.lit name) = some j) :
    Py.item o name = .ok j.normal := by
  rw [Py.item, h, hj]
  rfl

theorem getOr_holds {j default : Json} (h : Holds o fields)
    (hj : fields.lookup (Py.lit name) = some j) : Py.getOr o name default = j.normal := by
  rw [Py.getOr, h, hj]
  rfl

theorem get_holds {j : Json} (h : Holds o fields) (hj : fields.lookup (Py.lit name) = some j) :
    Py.get o name = j.normal := by
  rw [Py.get, h, hj]
  rfl

theorem strItem_holds {s : Str} (h : Holds o fields)
    (hs : fields.lookup (Py.lit name) = some (.str s)) : strItem I o name = .ok s := by
  rw [strItem, item_holds h hs]
  rfl

theorem strOr_holds {s : Str} {default : String} (h : Holds o fields)
    (hs : fields.lookup (Py.lit name) = some (.str s)) : strOr I o name default = s := by
  rw [strOr, getOr_holds h hs]
  rfl

theorem strOption_holds {s : Option Str} (h : Holds o fields)
    (hs : fields.lookup (Py.lit name) = some (.ofOption s)) : strOption I o name = s := by
  rw [strOption, get_holds h hs]
  cases s <;> rfl

theorem mapM_ok {α β : Type} {f : α → Except Exn β} {g : α → β} {xs : List α}
    (h : ∀ x ∈ xs, f x = .ok (g x)) : xs.mapM f = .ok (xs.map g) := by
  induction xs with
  | nil => rfl
  | cons x xs ih =>
    rw [List.forall_mem_cons] at h
    rw [List.mapM_cons, h.1, ih h.2]
    rfl

theorem textsOf_texts (texts : List Str) : textsOf (.arr (texts.map .str)) = .ok texts := by
  rw [textsOf]
  refine exceptBind_eq rfl ?_
  rw [mapM_ok (g := fun j => match j with | .str s => s | _ => []) fun j hj => by
    obtain ⟨s, -, rfl⟩ := List.mem_map.1 hj
    rfl]
  rw [List.map_map]
  exact congrArg Except.ok (List.map_id texts)

end

mutual

/-- Normalising twice changes nothing more. -/
theorem Json.normal_normal : ∀ j : Json, j.normal.normal = j.normal
  | .null | .bool _ | .int _ | .float _ | .str _ => rfl
  | .arr items => by
    rw [Json.normal, Json.normal, normalItems_normal items]
  | .obj fields => by
    rw [Json.normal, Json.normal, normalFields_eq, ← sortFields_map, ← normalFields_eq,
      normalFields_normal fields, sortFields_sortFields]

theorem normalItems_normal : ∀ items : List Json, normalItems (normalItems items) = normalItems items
  | [] => rfl
  | x :: xs => by
    rw [normalItems, normalItems, Json.normal_normal x, normalItems_normal xs]

theorem normalFields_normal : ∀ fields : List (Str × Json),
    normalFields (normalFields fields) = normalFields fields
  | [] => rfl
  | (name, x) :: rest => by
    rw [normalFields, normalFields, Json.normal_normal x, normalFields_normal rest]

end

theorem members_members (fields : Obj) : members (members fields) = members fields := by
  have h := Json.normal_normal (.obj fields)
  rw [normal_eq_members, normal_eq_members] at h
  exact Json.obj.inj h

mutual

theorem Json.renderable_normal : ∀ j : Json, j.normal.renderable = j.renderable
  | .null | .bool _ | .int _ | .float _ | .str _ => rfl
  | .arr items => by rw [Json.normal, Json.renderable, Json.renderable, renderableItems_normal items]
  | .obj fields => by
    rw [Json.normal, Json.renderable, Json.renderable, ← renderableFields_normal fields,
      renderableFields_eq, renderableFields_eq]
    exact (List.perm_insertionSort _ (normalFields fields)).all_eq

theorem renderableItems_normal : ∀ items : List Json,
    renderableItems (normalItems items) = renderableItems items
  | [] => rfl
  | x :: xs => by
    rw [normalItems, renderableItems, renderableItems, Json.renderable_normal x,
      renderableItems_normal xs]

theorem renderableFields_normal : ∀ fields : List (Str × Json),
    renderableFields (normalFields fields) = renderableFields fields
  | [] => rfl
  | (name, x) :: rest => by
    rw [normalFields, renderableFields, renderableFields, Json.renderable_normal x,
      renderableFields_normal rest]

end

/-! ## Values -/

/-- A value that Python can hold: an object has distinct names, and a float is one. -/
inductive Json.IsValue (F : Floats) : Json → Prop
  | null : IsValue F .null
  | bool (b : Bool) : IsValue F (.bool b)
  | int (n : Int) : IsValue F (.int n)
  | float {r : Str} : IsFloatText F.text r → IsValue F (.float r)
  | str (s : Str) : IsValue F (.str s)
  | arr {items : List Json} : (∀ x ∈ items, IsValue F x) → IsValue F (.arr items)
  | obj {fields : List (Str × Json)} : (fields.map Prod.fst).Nodup →
      (∀ m ∈ fields, IsValue F m.2) → IsValue F (.obj fields)

section
variable {F : Floats}

@[simp] theorem isValue_null : Json.null.IsValue F := .null
@[simp] theorem isValue_bool (b : Bool) : (Json.bool b).IsValue F := .bool b
@[simp] theorem isValue_int (n : Int) : (Json.int n).IsValue F := .int n
@[simp] theorem isValue_str (s : Str) : (Json.str s).IsValue F := .str s

@[simp] theorem isValue_arr {items : List Json} :
    (Json.arr items).IsValue F ↔ ∀ x ∈ items, x.IsValue F :=
  ⟨fun h => by cases h; assumption, .arr⟩

theorem isValue_obj {fields : Obj} :
    (Json.obj fields).IsValue F ↔ (fields.map Prod.fst).Nodup ∧ ∀ m ∈ fields, m.2.IsValue F :=
  ⟨fun h => by cases h; exact ⟨by assumption, by assumption⟩, fun h => .obj h.1 h.2⟩

@[simp] theorem isValue_texts (texts : List Str) : (Json.arr (texts.map .str)).IsValue F :=
  .arr fun x hx => by
    obtain ⟨s, -, rfl⟩ := List.mem_map.1 hx
    exact .str s

@[simp] theorem isValue_ofOption (s : Option Str) : (Json.ofOption s).IsValue F := by
  cases s <;> simp [Json.ofOption]

theorem Json.IsValue.wellFormed {j : Json} (h : j.IsValue F) (hr : j.renderable = true) :
    j.WellFormed F := by
  induction h with
  | null => exact .null
  | bool b => exact .bool b
  | int n =>
    rw [Json.renderable, decide_eq_true_eq] at hr
    exact .int hr
  | float hf => exact .float hf
  | str s => exact .str s
  | arr _ ih =>
    rw [Json.renderable, renderableItems_eq, List.all_eq_true] at hr
    exact .arr fun x hx => ih x hx (hr x hx)
  | obj hnames _ ih =>
    rw [Json.renderable, renderableFields_eq, List.all_eq_true] at hr
    exact .obj hnames fun m hm => ih m hm (hr m hm)

theorem Json.IsValue.members {fields : Obj} (hnames : (fields.map Prod.fst).Nodup)
    (h : ∀ m ∈ fields, m.2.normal.IsValue F) : (Json.obj (members fields)).IsValue F := by
  refine .obj ?_ fun m hm => ?_
  · rw [AgencyRuntime.members, List.map_map]
    exact nodup_sortFields hnames
  · obtain ⟨n, hn, rfl⟩ := List.mem_map.1 hm
    exact h n (mem_sortFields.1 hn)

theorem Json.IsValue.normal {j : Json} (h : j.IsValue F) : j.normal.IsValue F := by
  induction h with
  | null => exact .null
  | bool b => exact .bool b
  | int n => exact .int n
  | float hf => exact .float hf
  | str s => exact .str s
  | arr _ ih =>
    rw [normal_arr]
    refine .arr fun x hx => ?_
    obtain ⟨y, hy, rfl⟩ := List.mem_map.1 hx
    exact ih y hy
  | obj hnames _ ih =>
    rw [normal_eq_members]
    exact .members hnames ih

/-- The canonical JSON of a value does not depend on the order of members. -/
theorem canonicalJson_normal {j : Json} (h : j.IsValue F) :
    canonicalJson j.normal = canonicalJson j := by
  rw [canonicalJson, canonicalJson, Json.renderable_normal]
  by_cases hr : j.renderable = true
  · rw [if_pos hr, if_pos hr, canonicalText_normal (h.wellFormed hr)]
  · rw [if_neg hr, if_neg hr]

/-- The canonical JSON of a value is read back as the value with its members in order. -/
theorem jsonLoads_canonicalJson {j : Json} (h : j.IsValue F) {s : Str}
    (hs : canonicalJson j = .ok s) : jsonLoads F s = .ok j.normal := by
  rw [canonicalJson] at hs
  split at hs
  · next hr =>
    cases hs
    exact jsonLoads_canonicalText (h.wellFormed hr)
  · cases hs

end

end AgencyRuntime
