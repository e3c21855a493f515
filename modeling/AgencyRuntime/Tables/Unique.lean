import Mathlib.Data.List.Pairwise

/-!
# Tables with unique keys

A `Schema` names the key of a row and says when two keys clash; a `Table` is a list of rows no two
of which clash, so a table that breaks its own constraints cannot be built. An insertion fails on a
clash. An `Update` keeps the key, so applying it to any selection of rows needs no check.
-/

namespace Tables

/-- The key of a row, and when two keys cannot stand in one table. -/
structure Schema (α : Type) where
  Key : Type
  key : α → Key
  clash : Key → Key → Bool
  refl : ∀ k, clash k k = true
  symm : ∀ k l, clash k l = clash l k

/-- Two columns, each of them unique. -/
def Schema.ofPair {α β γ : Type} [BEq β] [LawfulBEq β] [BEq γ] [LawfulBEq γ] (key : α → β × γ) :
    Schema α where
  Key := β × γ
  key := key
  clash k l := k.1 == l.1 || k.2 == l.2
  refl _ := by simp
  symm k l := by simp only [BEq.comm]

/-- One unique key. -/
def Schema.ofKey {α β : Type} [BEq β] [LawfulBEq β] (key : α → β) : Schema α where
  Key := β
  key := key
  clash k l := k == l
  refl _ := by simp
  symm k l := by simp only [BEq.comm]

variable {α : Type} {S : Schema α}

/-- Rows of which no two clash. -/
structure Table (S : Schema α) where
  rows : List α
  distinct : rows.Pairwise fun r s => S.clash (S.key r) (S.key s) = false

/-- A change of a row that keeps its key. -/
structure Update (S : Schema α) where
  apply : α → α
  key_apply : ∀ r, S.key (apply r) = S.key r

namespace Table

/-- The table without rows. -/
def empty : Table S := ⟨[], .nil⟩

/-- No row of the table clashes with `r`. -/
def Fresh (t : Table S) (r : α) : Prop := ∀ s ∈ t.rows, S.clash (S.key s) (S.key r) = false

instance (t : Table S) (r : α) : Decidable (t.Fresh r) :=
  inferInstanceAs (Decidable (∀ s ∈ t.rows, S.clash (S.key s) (S.key r) = false))

/-- Insert a row; `none` when it clashes with a stored one. -/
def insert (t : Table S) (r : α) : Option (Table S) :=
  if h : t.Fresh r then
    some ⟨t.rows ++ [r], List.pairwise_append.2
      ⟨t.distinct, List.pairwise_singleton .., fun s hs _ hr => by
        cases List.mem_singleton.1 hr; exact h s hs⟩⟩
  else none

/-- Apply an update to the selected rows. -/
def modify (t : Table S) (sel : α → Bool) (u : Update S) : Table S where
  rows := t.rows.map fun r => if sel r then u.apply r else r
  distinct := by
    have hk : ∀ r, S.key (if sel r then u.apply r else r) = S.key r := by
      intro r
      split
      · exact u.key_apply r
      · rfl
    rw [List.pairwise_map]
    exact t.distinct.imp fun h => by rwa [hk, hk]

/-- Delete the selected rows. -/
def delete (t : Table S) (sel : α → Bool) : Table S where
  rows := t.rows.filter fun r => !sel r
  distinct := t.distinct.filter _

/-- Insert a row in place of those it clashes with. -/
def replace (t : Table S) (r : α) : Table S where
  rows := t.rows.filter (fun s => !S.clash (S.key s) (S.key r)) ++ [r]
  distinct := by
    refine List.pairwise_append.2 ⟨t.distinct.filter _, List.pairwise_singleton .., ?_⟩
    intro s hs u hu
    obtain rfl := List.mem_singleton.1 hu
    simpa using (List.mem_filter.1 hs).2

/-- How many rows are selected. -/
def count (t : Table S) (sel : α → Bool) : Nat := t.rows.countP sel

theorem insert_eq_some {t t' : Table S} {r : α} :
    t.insert r = some t' ↔ t.Fresh r ∧ t'.rows = t.rows ++ [r] := by
  unfold insert
  split
  · next h =>
    simp only [Option.some.injEq, h, true_and]
    constructor
    · rintro rfl; rfl
    · intro h'; cases t'; subst h'; rfl
  · next h => simp [h]

theorem insert_eq_none {t : Table S} {r : α} : t.insert r = none ↔ ¬ t.Fresh r := by
  unfold insert
  split <;> simp [*]

/-- A row is in the table after an insertion when it was there or is the new one. -/
theorem mem_insert {t t' : Table S} {r s : α} (h : t.insert r = some t') :
    s ∈ t'.rows ↔ s ∈ t.rows ∨ s = r := by
  rw [(insert_eq_some.1 h).2, List.mem_append, List.mem_singleton]

/-- A row after a modification comes from a row before it. -/
theorem mem_modify {t : Table S} {sel : α → Bool} {u : Update S} {s : α} :
    s ∈ (t.modify sel u).rows ↔ ∃ r ∈ t.rows, (if sel r then u.apply r else r) = s := by
  simp only [modify, List.mem_map]

theorem mem_delete {t : Table S} {sel : α → Bool} {r : α} :
    r ∈ (t.delete sel).rows ↔ r ∈ t.rows ∧ sel r = false := by
  simp only [delete, List.mem_filter, Bool.not_eq_true']

theorem mem_replace {t : Table S} {r s : α} :
    s ∈ (t.replace r).rows ↔ s = r ∨ s ∈ t.rows ∧ S.clash (S.key s) (S.key r) = false := by
  simp only [replace, List.mem_append, List.mem_filter, List.mem_singleton, Bool.not_eq_true']
  exact or_comm

/-- A modification of no row changes nothing. -/
theorem modify_eq_self {t : Table S} {sel : α → Bool} (u : Update S)
    (h : ∀ r ∈ t.rows, sel r = false) : t.modify sel u = t := by
  obtain ⟨rows, hd⟩ := t
  have hrows : rows.map (fun r => if sel r then u.apply r else r) = rows := by
    refine Eq.trans (List.map_congr_left fun r hr => ?_) (List.map_id rows)
    simp [h r hr]
  simp only [modify, hrows]

instance : Std.Symm fun r s : α => S.clash (S.key r) (S.key s) = false :=
  ⟨fun _ _ h => by rwa [S.symm]⟩

/-- Rows whose keys clash are one row. -/
theorem eq_of_clash {t : Table S} {r s : α} (hr : r ∈ t.rows) (hs : s ∈ t.rows)
    (h : S.clash (S.key r) (S.key s) = true) : r = s := by
  by_contra hne
  have := t.distinct.forall hr hs hne
  rw [h] at this
  cases this

/-- A selection of what clashes with a row finds this row. -/
theorem find?_eq_some {t : Table S} {r : α} {sel : α → Bool} (hr : r ∈ t.rows) (hsel : sel r = true)
    (h : ∀ s, sel s = true → S.clash (S.key s) (S.key r) = true) : t.rows.find? sel = some r := by
  cases hfind : t.rows.find? sel with
  | none => exact absurd hsel (List.find?_eq_none.1 hfind r hr)
  | some s =>
    have hs : s ∈ t.rows := List.mem_of_find?_eq_some hfind
    rw [eq_of_clash hs hr (h s (List.find?_some hfind))]

/-- A selection of rows whose keys clash selects at most one row. -/
theorem count_le_one (t : Table S) {sel : α → Bool}
    (h : ∀ r s, sel r = true → sel s = true → S.clash (S.key r) (S.key s) = true) :
    t.count sel ≤ 1 := by
  obtain ⟨rows, hd⟩ := t
  simp only [count]
  induction rows with
  | nil => exact Nat.zero_le 1
  | cons r rows ih =>
    obtain ⟨hr, hd⟩ := List.pairwise_cons.1 hd
    cases hsel : sel r with
    | false => simpa [hsel] using ih hd
    | true =>
      have hnone : rows.countP sel = 0 := by
        rw [List.countP_eq_zero]
        intro s hs hss
        have := hr s hs
        rw [h r s hsel hss] at this
        cases this
      simp [hsel, hnone]

/-- Such a selection has one row exactly when a row is selected. -/
theorem count_eq_one (t : Table S) {sel : α → Bool}
    (h : ∀ r s, sel r = true → sel s = true → S.clash (S.key r) (S.key s) = true) :
    t.count sel = 1 ↔ ∃ r ∈ t.rows, sel r = true := by
  have hle := t.count_le_one h
  rw [← List.countP_pos_iff]
  simp only [count] at hle ⊢
  omega

end Table

end Tables
