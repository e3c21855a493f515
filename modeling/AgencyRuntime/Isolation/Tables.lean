import AgencyRuntime.Isolation.Transactions
import AgencyRuntime.Tables.Unique

/-!
# Isolated tables

Every row of a table has an owner, and the key of a valid row tells it, so rows of different owners
never clash. An owner then reads, counts and changes its own rows as if the table held no others.
-/

namespace Tables

/-- Who owns a row; the keys of valid rows of different owners do not clash. -/
structure Ownership {α : Type} (S : Schema α) (τ : Type) where
  owner : α → τ
  Valid : α → Prop
  apart : ∀ r s, Valid r → Valid s → S.clash (S.key r) (S.key s) = true → owner r = owner s

namespace Ownership

variable {α τ : Type} {S : Schema α} (O : Ownership S τ)

/-- All rows are valid. -/
def Holds (t : Table S) : Prop := ∀ r ∈ t.rows, O.Valid r

/-- The selection is of rows of the owner. -/
def Selects (O : Ownership S τ) (x : τ) (sel : α → Bool) (t : Table S) : Prop :=
  ∀ r ∈ t.rows, sel r = true → O.owner r = x

/-- An update keeps a valid row with its owner. -/
structure Keeps (O : Ownership S τ) (u : Update S) : Prop where
  valid : ∀ r, O.Valid r → O.Valid (u.apply r)
  owner : ∀ r, O.owner (u.apply r) = O.owner r

variable {O} {x : τ} {t t' : Table S}

/-- Where the key gives the owner and the validity of a row, every update keeps them. -/
theorem keeps_of_key (owner : S.Key → τ) (valid : S.Key → Prop)
    (howner : ∀ r, O.owner r = owner (S.key r)) (hvalid : ∀ r, O.Valid r ↔ valid (S.key r))
    (u : Update S) : O.Keeps u where
  valid r hr := by
    rw [hvalid, u.key_apply, ← hvalid]
    exact hr
  owner r := by rw [howner, howner, u.key_apply]

theorem Holds.empty : O.Holds Table.empty :=
  fun _ h => absurd h List.not_mem_nil

theorem Holds.modify (ht : O.Holds t) {sel : α → Bool} {u : Update S} (hu : O.Keeps u) :
    O.Holds (t.modify sel u) := by
  intro r hr
  obtain ⟨s, hs, rfl⟩ := Table.mem_modify.1 hr
  split
  · exact hu.valid s (ht s hs)
  · exact ht s hs

theorem Holds.insert (ht : O.Holds t) {r : α} (hr : O.Valid r) (h : t.insert r = some t') :
    O.Holds t' := by
  intro s hs
  rcases (Table.mem_insert h).1 hs with hs | rfl
  · exact ht s hs
  · exact hr

theorem Holds.delete (ht : O.Holds t) {sel : α → Bool} : O.Holds (t.delete sel) :=
  fun r hr => ht r (Table.mem_delete.1 hr).1

variable [DecidableEq τ]

/-- The rows of an owner. -/
def part (O : Ownership S τ) (x : τ) (t : Table S) : List α :=
  t.rows.filter fun r => decide (O.owner r = x)

/-- The table of the owners. -/
def isolation (O : Ownership S τ) : Isolation (Table S) τ := ⟨List α, O.part, O.Holds⟩

theorem mem_part {r : α} : r ∈ O.part x t ↔ r ∈ t.rows ∧ O.owner r = x := by
  rw [part, List.mem_filter, decide_eq_true_eq]

/-! ## Reading -/

theorem filter_part {sel : α → Bool} (h : O.Selects x sel t) :
    t.rows.filter sel = (O.part x t).filter sel := by
  rw [part, List.filter_filter]
  refine List.filter_congr fun r hr => ?_
  cases hsel : sel r with
  | false => rfl
  | true => rw [decide_eq_true (h r hr hsel), Bool.and_true]

theorem find?_part {sel : α → Bool} (h : O.Selects x sel t) :
    t.rows.find? sel = (O.part x t).find? sel := by
  rw [← List.head?_filter, ← List.head?_filter, filter_part h]

theorem any_part {sel : α → Bool} (h : O.Selects x sel t) : t.rows.any sel = (O.part x t).any sel := by
  rw [Bool.eq_iff_iff, List.any_eq_true, List.any_eq_true]
  constructor
  · rintro ⟨r, hr, hsel⟩
    exact ⟨r, mem_part.2 ⟨hr, h r hr hsel⟩, hsel⟩
  · rintro ⟨r, hr, hsel⟩
    exact ⟨r, (mem_part.1 hr).1, hsel⟩

theorem count_part {sel : α → Bool} (h : O.Selects x sel t) :
    t.count sel = (O.part x t).countP sel := by
  rw [Table.count, List.countP_eq_length_filter, List.countP_eq_length_filter, filter_part h]

/-! ## Writing -/

theorem part_modify {sel : α → Bool} {u : Update S} (hu : O.Keeps u) (y : τ) :
    O.part y (t.modify sel u) = (O.part y t).map fun r => if sel r then u.apply r else r := by
  rw [part, Table.modify, List.filter_map, part]
  congr 1
  refine List.filter_congr fun r _ => ?_
  rw [Function.comp]
  split
  · rw [hu.owner]
  · rfl

/-- The rows of another owner are not changed. -/
theorem part_modify_other {sel : α → Bool} {u : Update S} (hu : O.Keeps u) (h : O.Selects x sel t)
    {y : τ} (hy : y ≠ x) : O.part y (t.modify sel u) = O.part y t := by
  rw [part_modify hu]
  refine (List.map_congr_left fun r hr => ?_).trans (List.map_id _)
  obtain ⟨hmem, rfl⟩ := mem_part.1 hr
  rw [if_neg]
  · rfl
  · exact fun hsel => hy (h r hmem hsel)

theorem part_insert {r : α} (h : t.insert r = some t') (y : τ) :
    O.part y t' = O.part y t ++ if O.owner r = y then [r] else [] := by
  rw [part, (Table.insert_eq_some.1 h).2, List.filter_append, part]
  congr 1
  by_cases hy : O.owner r = y <;> simp [hy]

/-- A valid row only clashes with rows of its owner. -/
theorem fresh_iff (ht : O.Holds t) {r : α} (hr : O.Valid r) :
    t.Fresh r ↔ ∀ s ∈ O.part (O.owner r) t, S.clash (S.key s) (S.key r) = false := by
  constructor
  · intro h s hs
    exact h s (mem_part.1 hs).1
  · intro h s hs
    by_contra hclash
    rw [Bool.not_eq_false] at hclash
    have howner := O.apart s r (ht s hs) hr hclash
    rw [h s (mem_part.2 ⟨hs, howner⟩)] at hclash
    cases hclash

theorem part_delete {sel : α → Bool} (y : τ) :
    O.part y (t.delete sel) = (O.part y t).filter fun r => !sel r := by
  rw [part, Table.delete, part, List.filter_filter, List.filter_filter]
  exact List.filter_congr fun r _ => Bool.and_comm ..

theorem part_delete_other {sel : α → Bool} (h : O.Selects x sel t) {y : τ} (hy : y ≠ x) :
    O.part y (t.delete sel) = O.part y t := by
  rw [part_delete, List.filter_eq_self]
  intro r hr
  obtain ⟨hmem, rfl⟩ := mem_part.1 hr
  cases hsel : sel r with
  | false => rfl
  | true => exact absurd (h r hmem hsel) hy

/-- A row takes the place of those it clashes with. -/
theorem replace_eq (t : Table S) (r : α) : (t.replace r).rows =
    (t.delete fun s => S.clash (S.key s) (S.key r)).rows ++ [r] := rfl

theorem part_replace {r : α} (y : τ) : O.part y (t.replace r) =
    (O.part y (t.delete fun s => S.clash (S.key s) (S.key r))) ++
      if O.owner r = y then [r] else [] := by
  rw [part, replace_eq, List.filter_append, part]
  congr 1
  by_cases hy : O.owner r = y <;> simp [hy]

/-! ## Steps -/

section
variable {d d' : Table S}

theorem find?_alike {p : α → Bool} (h : O.isolation.Alike x d d')
    (hsel : ∀ t, O.Holds t → O.Selects x p t) : d.rows.find? p = d'.rows.find? p := by
  rw [find?_part (hsel d h.left), find?_part (hsel d' h.right)]
  exact congrArg (List.find? p) h.view

theorem any_alike {p : α → Bool} (h : O.isolation.Alike x d d')
    (hsel : ∀ t, O.Holds t → O.Selects x p t) : d.rows.any p = d'.rows.any p := by
  rw [any_part (hsel d h.left), any_part (hsel d' h.right)]
  exact congrArg (fun rows => List.any rows p) h.view

theorem count_alike {p : α → Bool} (h : O.isolation.Alike x d d')
    (hsel : ∀ t, O.Holds t → O.Selects x p t) : d.count p = d'.count p := by
  rw [count_part (hsel d h.left), count_part (hsel d' h.right)]
  exact congrArg (List.countP p) h.view

theorem modify_alike {sel : α → Bool} {u : Update S} (hu : O.Keeps u)
    (h : O.isolation.Alike x d d') : O.isolation.Alike x (d.modify sel u) (d'.modify sel u) where
  left := Holds.modify h.left hu
  right := Holds.modify h.right hu
  view := by
    change O.part x (d.modify sel u) = O.part x (d'.modify sel u)
    rw [part_modify hu, part_modify hu]
    exact congrArg (List.map _) h.view

theorem modify_moves {sel : α → Bool} {u : Update S} (hu : O.Keeps u) (h : O.Holds d)
    (hsel : O.Selects x sel d) : O.isolation.Moves x d (d.modify sel u) where
  holds := h.modify hu
  others _ hy := part_modify_other hu hsel hy

/-- An update of rows of the owner, with their number. -/
theorem step_modify {sel : α → Bool} {u : Update S} (hu : O.Keeps u)
    (hsel : ∀ t, O.Holds t → O.Selects x sel t) :
    O.isolation.Step x fun t => (t.count sel, t.modify sel u) := fun d _ h =>
  ⟨count_alike h hsel, modify_alike hu h, modify_moves hu h.left (hsel d h.left)⟩

theorem delete_alike {sel : α → Bool} (h : O.isolation.Alike x d d') :
    O.isolation.Alike x (d.delete sel) (d'.delete sel) where
  left := Holds.delete h.left
  right := Holds.delete h.right
  view := by
    change O.part x (d.delete sel) = O.part x (d'.delete sel)
    rw [part_delete, part_delete]
    exact congrArg (List.filter _) h.view

theorem delete_moves {sel : α → Bool} (h : O.Holds d) (hsel : O.Selects x sel d) :
    O.isolation.Moves x d (d.delete sel) where
  holds := h.delete
  others _ hy := part_delete_other hsel hy

/-- Insertions of one row into two tables succeed together. -/
theorem insert_alike {r : α} (h : O.isolation.Alike x d d') (hr : O.Valid r) (hx : O.owner r = x) :
    (d.insert r = none ∧ d'.insert r = none) ∨ ∃ e e', d.insert r = some e ∧ d'.insert r = some e' ∧
      O.isolation.Alike x e e' ∧ O.isolation.Moves x d e ∧ O.isolation.Moves x d' e' := by
  have hview : O.part x d = O.part x d' := h.view
  have hfresh : d.Fresh r ↔ d'.Fresh r := by
    rw [fresh_iff h.left hr, fresh_iff h.right hr, hx, hview]
  have hothers {t t' : Table S} (ht : O.Holds t) (hinsert : t.insert r = some t') :
      O.isolation.Moves x t t' := by
    refine ⟨ht.insert hr hinsert, fun y hy => ?_⟩
    change O.part y t' = O.part y t
    rw [part_insert hinsert, if_neg fun heq => hy (heq.symm.trans hx), List.append_nil]
  cases hd : d.insert r with
  | none =>
    refine .inl ⟨rfl, ?_⟩
    rw [Table.insert_eq_none] at hd ⊢
    rwa [← hfresh]
  | some e =>
    obtain ⟨e', hd'⟩ : ∃ e', d'.insert r = some e' := by
      have hnew := hfresh.1 (Table.insert_eq_some.1 hd).1
      cases hd' : d'.insert r with
      | none => exact absurd hnew (Table.insert_eq_none.1 hd')
      | some e' => exact ⟨e', rfl⟩
    refine .inr ⟨e, e', rfl, hd', ⟨(hothers h.left hd).holds, (hothers h.right hd').holds, ?_⟩,
      hothers h.left hd, hothers h.right hd'⟩
    change O.part x e = O.part x e'
    rw [part_insert hd, part_insert hd', hview]

/-- A row of the owner takes the place of those it clashes with. -/
theorem step_replace {r : α} (hr : O.Valid r) (hx : O.owner r = x) :
    O.isolation.Step x fun t => ((), t.replace r) := by
  have hsel (t : Table S) (ht : O.Holds t) :
      O.Selects x (fun s => S.clash (S.key s) (S.key r)) t :=
    fun s hs hclash => (O.apart s r (ht s hs) hr hclash).trans hx
  have hholds {t : Table S} (ht : O.Holds t) : O.Holds (t.replace r) := by
    intro s hs
    rcases Table.mem_replace.1 hs with rfl | ⟨hs, -⟩
    · exact hr
    · exact ht s hs
  refine fun d d' h => ⟨rfl, ⟨hholds h.left, hholds h.right, ?_⟩, hholds h.left, fun y hy => ?_⟩
  · change O.part x (d.replace r) = O.part x (d'.replace r)
    rw [part_replace, part_replace]
    exact congrArg (· ++ _) (delete_alike h).view
  · change O.part y (d.replace r) = O.part y d
    rw [part_replace, part_delete_other (hsel d h.left) hy,
      if_neg fun heq => hy (heq.symm.trans hx), List.append_nil]

end

end Ownership

end Tables
