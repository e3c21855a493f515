import Mathlib.Data.List.Dedup

/-!
# Dictionaries built from pairs

A dictionary that is filled pair by pair keeps each key where it came first, with the value that came
last (`mem_ofPairs`).
-/

namespace Tables

theorem mem_of_lookup {κ α : Type} [BEq κ] [LawfulBEq κ] {d : List (κ × α)} {k : κ} {v : α}
    (h : d.lookup k = some v) : (k, v) ∈ d := by
  obtain ⟨before, after, rfl, -⟩ := List.lookup_eq_some_iff.1 h
  exact List.mem_append_right _ List.mem_cons_self

variable {κ α : Type} [DecidableEq κ] {pairs : List (κ × α)} {k : κ} {v : α}

/-- The keys, each where it comes first. -/
def firstKeys (pairs : List (κ × α)) : List κ := (pairs.map Prod.fst).reverse.dedup.reverse

/-- The last value of a key. -/
def lastValue (pairs : List (κ × α)) (k : κ) : Option α := pairs.reverse.lookup k

/-- The dictionary of the pairs. -/
def ofPairs (pairs : List (κ × α)) : List (κ × α) :=
  (firstKeys pairs).filterMap fun k => (lastValue pairs k).map fun v => (k, v)

theorem mem_firstKeys : k ∈ firstKeys pairs ↔ ∃ v, (k, v) ∈ pairs := by
  simp [firstKeys]

theorem lastValue_mem (h : lastValue pairs k = some v) : (k, v) ∈ pairs :=
  List.mem_reverse.1 (mem_of_lookup h)

theorem exists_lastValue (h : (k, v) ∈ pairs) : ∃ w, lastValue pairs k = some w := by
  rw [← Option.isSome_iff_exists, Option.isSome_iff_ne_none, lastValue, Ne,
    List.lookup_eq_none_iff]
  intro hnone
  have := hnone (k, v) (List.mem_reverse.2 h)
  simp at this

theorem mem_ofPairs : (k, v) ∈ ofPairs pairs ↔ lastValue pairs k = some v := by
  simp only [ofPairs, List.mem_filterMap, Option.map_eq_some_iff, Prod.mk.injEq]
  constructor
  · rintro ⟨k', -, w, hw, rfl, rfl⟩
    exact hw
  · intro h
    exact ⟨k, mem_firstKeys.2 ⟨v, lastValue_mem h⟩, v, h, rfl, rfl⟩

theorem lookup_ofPairs (pairs : List (κ × α)) (k : κ) :
    (ofPairs pairs).lookup k = lastValue pairs k := by
  have hsome {v : α} (h : (ofPairs pairs).lookup k = some v) : lastValue pairs k = some v :=
    mem_ofPairs.1 (mem_of_lookup h)
  cases hlast : lastValue pairs k with
  | some v =>
    cases hlookup : (ofPairs pairs).lookup k with
    | some w => rw [← hsome hlookup, hlast]
    | none =>
      have := List.lookup_eq_none_iff.1 hlookup (k, v) (mem_ofPairs.2 hlast)
      simp at this
  | none =>
    cases hlookup : (ofPairs pairs).lookup k with
    | some w => rw [← hsome hlookup, hlast]
    | none => rfl

theorem mem_keys_ofPairs : k ∈ (ofPairs pairs).map Prod.fst ↔ ∃ v, (k, v) ∈ pairs := by
  constructor
  · intro h
    obtain ⟨⟨k, v⟩, hmem, rfl⟩ := List.mem_map.1 h
    exact ⟨v, lastValue_mem (mem_ofPairs.1 hmem)⟩
  · rintro ⟨v, hmem⟩
    obtain ⟨w, hw⟩ := exists_lastValue hmem
    exact List.mem_map.2 ⟨(k, w), mem_ofPairs.2 hw, rfl⟩

end Tables
