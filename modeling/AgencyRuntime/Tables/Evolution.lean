import AgencyRuntime.Tables.Unique

/-!
# What becomes of the rows of a table

A `RowOrder` is a preorder on rows that keeps their keys: what may become of a row. A table evolves
when each row it had becomes a later row, the inserted rows do too, and nothing else appears.
Evolutions compose, and because keys stay, no two rows inserted along an evolution clash: neither
with each other nor with a row the table had.
-/

namespace Tables

/-- What may become of a row. -/
structure RowOrder {α : Type} (S : Schema α) where
  le : α → α → Prop
  refl : ∀ r, le r r
  trans : ∀ {q r s}, le q r → le r s → le q s
  key_eq : ∀ {r s}, le r s → S.key s = S.key r

variable {α : Type} {S : Schema α} {G : RowOrder S}

/-- `t'` is what became of `t` with these rows inserted. -/
structure Evolution (G : RowOrder S) (t : Table S) (inserted : List α) (t' : Table S) : Prop where
  kept : ∀ r ∈ t.rows, ∃ r' ∈ t'.rows, G.le r r'
  stored : ∀ r ∈ inserted, ∃ r' ∈ t'.rows, G.le r r'
  origin : ∀ r' ∈ t'.rows, (∃ r ∈ t.rows, G.le r r') ∨ ∃ r ∈ inserted, G.le r r'
  fresh : ∀ r ∈ inserted, t.Fresh r
  apart : inserted.Pairwise fun r s => S.clash (S.key r) (S.key s) = false

namespace Evolution

variable {t t' t'' : Table S} {xs ys : List α} {r : α}

/-- Nothing happened. -/
theorem refl (t : Table S) : Evolution G t [] t where
  kept r hr := ⟨r, hr, G.refl r⟩
  stored _ hr := absurd hr List.not_mem_nil
  origin r hr := .inl ⟨r, hr, G.refl r⟩
  fresh _ hr := absurd hr List.not_mem_nil
  apart := .nil

/-- A row was inserted. -/
theorem insert (h : t.insert r = some t') : Evolution G t [r] t' where
  kept s hs := ⟨s, (Table.mem_insert h).2 (.inl hs), G.refl s⟩
  stored s hs := by
    rw [List.mem_singleton] at hs
    exact ⟨s, (Table.mem_insert h).2 (.inr hs), G.refl s⟩
  origin s hs := by
    rcases (Table.mem_insert h).1 hs with hs | rfl
    · exact .inl ⟨s, hs, G.refl s⟩
    · exact .inr ⟨s, List.mem_singleton_self s, G.refl s⟩
  fresh s hs := by
    rw [List.mem_singleton] at hs
    exact hs ▸ (Table.insert_eq_some.1 h).1
  apart := List.pairwise_singleton ..

/-- The selected rows were updated. -/
theorem modify {sel : α → Bool} {u : Update S}
    (h : ∀ r ∈ t.rows, sel r = true → G.le r (u.apply r)) : Evolution G t [] (t.modify sel u) where
  kept r hr := by
    refine ⟨_, Table.mem_modify.2 ⟨r, hr, rfl⟩, ?_⟩
    split
    · next hsel => exact h r hr hsel
    · exact G.refl r
  stored _ hr := absurd hr List.not_mem_nil
  origin s hs := by
    obtain ⟨r, hr, rfl⟩ := Table.mem_modify.1 hs
    refine .inl ⟨r, hr, ?_⟩
    split
    · next hsel => exact h r hr hsel
    · exact G.refl r
  fresh _ hr := absurd hr List.not_mem_nil
  apart := .nil

/-- A row that the second half inserts was fresh at the start. -/
theorem fresh_earlier (h : Evolution G t xs t') (hr : t'.Fresh r) : t.Fresh r := by
  intro s hs
  obtain ⟨s', hs', hle⟩ := h.kept s hs
  rw [← G.key_eq hle]
  exact hr s' hs'

/-- One evolution after another. -/
theorem trans (h : Evolution G t xs t') (h' : Evolution G t' ys t'') :
    Evolution G t (xs ++ ys) t'' where
  kept r hr := by
    obtain ⟨r', hr', hle⟩ := h.kept r hr
    obtain ⟨r'', hr'', hle'⟩ := h'.kept r' hr'
    exact ⟨r'', hr'', G.trans hle hle'⟩
  stored r hr := by
    rcases List.mem_append.1 hr with hr | hr
    · obtain ⟨r', hr', hle⟩ := h.stored r hr
      obtain ⟨r'', hr'', hle'⟩ := h'.kept r' hr'
      exact ⟨r'', hr'', G.trans hle hle'⟩
    · exact h'.stored r hr
  origin s hs := by
    rcases h'.origin s hs with ⟨r', hr', hle'⟩ | ⟨r, hr, hle⟩
    · rcases h.origin r' hr' with ⟨r, hr, hle⟩ | ⟨r, hr, hle⟩
      · exact .inl ⟨r, hr, G.trans hle hle'⟩
      · exact .inr ⟨r, List.mem_append_left _ hr, G.trans hle hle'⟩
    · exact .inr ⟨r, List.mem_append_right _ hr, hle⟩
  fresh r hr := by
    rcases List.mem_append.1 hr with hr | hr
    · exact h.fresh r hr
    · exact h.fresh_earlier (h'.fresh r hr)
  apart := by
    refine List.pairwise_append.2 ⟨h.apart, h'.apart, fun r hr s hs => ?_⟩
    -- The row stored for `r` still has its key when `s` is inserted.
    obtain ⟨r', hr', hle⟩ := h.stored r hr
    rw [← G.key_eq hle]
    exact h'.fresh s hs r' hr'

end Evolution

end Tables
