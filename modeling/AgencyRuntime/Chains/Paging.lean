import Mathlib.Data.List.Sort

/-!
# Reading a growing table by pages

Rows have a key, and a page is the first rows after a cursor in the order of their keys; the next
page goes on after the last of them. A table may grow between two pages, but each new row has a
greater key than every row before it (`Extends`). What the pages have given so far is then always
the rows up to the cursor (`Yielded`).
-/

namespace Chains

variable {α : Type} {key : α → Nat} {rows rows' rows'' : List α} {cursor n : Nat} {out : List α}

/-- The rows after a cursor, in the order of their keys. -/
def rowsAfter (key : α → Nat) (rows : List α) (cursor : Nat) : List α :=
  (rows.filter fun r => decide (cursor < key r)).insertionSort fun a b => key a ≤ key b

/-- Where the next page starts. -/
def nextCursor (key : α → Nat) (cursor : Nat) (page : List α) : Nat :=
  (page.getLast?.map key).getD cursor

/-- Rows were added, each with a greater key than every row before. -/
structure Extends (key : α → Nat) (rows rows' : List α) : Prop where
  old : ∀ r ∈ rows, r ∈ rows'
  new : ∀ r ∈ rows', r ∉ rows → ∀ r' ∈ rows, key r' < key r

theorem Extends.refl (rows : List α) : Extends key rows rows where
  old _ hr := hr
  new _ hr hnew := absurd hr hnew

theorem Extends.trans (h : Extends key rows rows') (h' : Extends key rows' rows'') :
    Extends key rows rows'' where
  old r hr := h'.old r (h.old r hr)
  new r hr hnew r' hr' := by
    by_cases hmem : r ∈ rows'
    · exact h.new r hmem hnew r' hr'
    · exact h'.new r hr hmem r' (h.old r' hr')

/-- Rows that are added at the end, with greater keys. -/
theorem extends_append {new : List α} (h : ∀ r ∈ new, ∀ r' ∈ rows, key r' < key r) :
    Extends key rows (rows ++ new) where
  old _ hr := List.mem_append_left new hr
  new r hr hnew := h r ((List.mem_append.1 hr).resolve_left hnew)

/-- The pages so far gave the rows up to the cursor, each once and in the order of the keys. -/
structure Yielded (key : α → Nat) (rows : List α) (cursor : Nat) (out : List α) : Prop where
  sorted : out.Pairwise fun a b => key a < key b
  mem_iff : ∀ r, r ∈ out ↔ r ∈ rows ∧ key r ≤ cursor
  place : cursor = 0 ∨ ∃ r ∈ rows, key r = cursor

theorem Yielded.nil (hpos : ∀ r ∈ rows, 0 < key r) : Yielded key rows 0 [] where
  sorted := .nil
  mem_iff r := by
    refine iff_of_false List.not_mem_nil fun h => ?_
    have := hpos r h.1
    omega
  place := .inl rfl

theorem mem_rowsAfter {r : α} : r ∈ rowsAfter key rows cursor ↔ r ∈ rows ∧ cursor < key r := by
  rw [rowsAfter, List.mem_insertionSort, List.mem_filter, decide_eq_true_eq]

theorem rowsAfter_sorted (hdistinct : rows.Pairwise fun a b => key a ≠ key b) :
    (rowsAfter key rows cursor).Pairwise fun a b => key a < key b := by
  have hsorted := List.pairwise_insertionSort (fun a b : α => key a ≤ key b)
    (rows.filter fun r => decide (cursor < key r))
  have hne : (rowsAfter key rows cursor).Pairwise fun a b => key a ≠ key b :=
    (List.perm_insertionSort _ _).pairwise_iff (fun h => h.symm) |>.2 (hdistinct.filter _)
  exact (hsorted.and hne).imp fun h => lt_of_le_of_ne h.1 h.2

/-- Growth does not touch what the pages gave. -/
theorem Yielded.extends (h : Yielded key rows cursor out) (hrows : Extends key rows rows')
    (hpos : ∀ r ∈ rows', 0 < key r) : Yielded key rows' cursor out where
  sorted := h.sorted
  mem_iff r := by
    rw [h.mem_iff]
    constructor
    · rintro ⟨hr, hle⟩
      exact ⟨hrows.old r hr, hle⟩
    · rintro ⟨hr, hle⟩
      refine ⟨?_, hle⟩
      by_contra hnew
      rcases h.place with hzero | ⟨last, hlast, hcursor⟩
      · have := hpos r hr
        omega
      · have := hrows.new r hr hnew last hlast
        omega
  place := by
    rcases h.place with hzero | ⟨last, hlast, hcursor⟩
    · exact .inl hzero
    · exact .inr ⟨last, hrows.old last hlast, hcursor⟩

/-- The rows of a page are the rows after the cursor up to the next one. -/
theorem mem_take_iff {rest : List α} (hsorted : rest.Pairwise fun a b => key a < key b)
    (hn : 0 < n) {r : α} (hr : r ∈ rest) :
    r ∈ rest.take n ↔ key r ≤ nextCursor key cursor (rest.take n) := by
  have hsplit := List.take_append_drop n rest
  rcases List.eq_nil_or_concat (rest.take n) with hnil | ⟨init, last, htake⟩
  · rcases List.take_eq_nil_iff.1 hnil with hzero | hempty
    · omega
    · rw [hempty] at hr
      cases hr
  · rw [List.concat_eq_append] at htake
    have hnext : nextCursor key cursor (rest.take n) = key last := by
      rw [nextCursor, htake, List.getLast?_concat, Option.map_some, Option.getD_some]
    rw [hnext]
    rw [← hsplit, List.pairwise_append] at hsorted
    obtain ⟨hfirst, -, hcross⟩ := hsorted
    have hlast : last ∈ rest.take n := by
      rw [htake]
      exact List.mem_append_right init List.mem_cons_self
    constructor
    · intro hmem
      rw [htake] at hmem hfirst
      rcases List.mem_append.1 hmem with hmem | hmem
      · exact le_of_lt ((List.pairwise_append.1 hfirst).2.2 r hmem last List.mem_cons_self)
      · rw [List.mem_singleton.1 hmem]
    · intro hle
      rw [← hsplit] at hr
      rcases List.mem_append.1 hr with hr | hr
      · exact hr
      · have := hcross last hlast r hr
        omega

/-- A page goes on where the last one ended. -/
theorem Yielded.page (h : Yielded key rows cursor out)
    (hdistinct : rows.Pairwise fun a b => key a ≠ key b) (hn : 0 < n) :
    Yielded key rows (nextCursor key cursor ((rowsAfter key rows cursor).take n))
      (out ++ (rowsAfter key rows cursor).take n) := by
  have hsorted : (rowsAfter key rows cursor).Pairwise fun a b => key a < key b :=
    rowsAfter_sorted hdistinct
  have hle : cursor ≤ nextCursor key cursor ((rowsAfter key rows cursor).take n) := by
    rw [nextCursor]
    cases hlast : ((rowsAfter key rows cursor).take n).getLast? with
    | none => exact le_refl cursor
    | some last =>
      have hmem := List.mem_of_mem_take (List.mem_of_getLast? hlast)
      exact le_of_lt (mem_rowsAfter.1 hmem).2
  refine ⟨?_, fun r => ?_, ?_⟩
  · refine List.pairwise_append.2 ⟨h.sorted, hsorted.take, fun a ha b hb => ?_⟩
    have h1 := ((h.mem_iff a).1 ha).2
    have h2 := (mem_rowsAfter.1 (List.mem_of_mem_take hb)).2
    omega
  · rw [List.mem_append, h.mem_iff]
    constructor
    · rintro (⟨hr, hcursor⟩ | hr)
      · exact ⟨hr, le_trans hcursor hle⟩
      · have hafter := List.mem_of_mem_take hr
        exact ⟨(mem_rowsAfter.1 hafter).1, (mem_take_iff hsorted hn hafter).1 hr⟩
    · rintro ⟨hr, hnext⟩
      by_cases hcursor : key r ≤ cursor
      · exact .inl ⟨hr, hcursor⟩
      · exact .inr ((mem_take_iff hsorted hn (mem_rowsAfter.2 ⟨hr, by omega⟩)).2 hnext)
  · rw [nextCursor]
    cases hlast : ((rowsAfter key rows cursor).take n).getLast? with
    | none => exact h.place
    | some last =>
      have hmem := List.mem_of_mem_take (List.mem_of_getLast? hlast)
      exact .inr ⟨last, (mem_rowsAfter.1 hmem).1, rfl⟩

/-- A page that holds all rows after the cursor is the last one. -/
theorem Yielded.all (h : Yielded key rows cursor out)
    (hlast : (rowsAfter key rows cursor).length ≤ n) (r : α) :
    r ∈ out ++ (rowsAfter key rows cursor).take n ↔ r ∈ rows := by
  rw [List.take_of_length_le hlast, List.mem_append, h.mem_iff, mem_rowsAfter, ← and_or_left]
  exact and_iff_left (Nat.lt_or_ge cursor (key r)).symm

end Chains
