import Mathlib.Data.List.Forall2
import Mathlib.Data.List.Induction

/-!
# Hash chains

Entries that name the hash of their predecessor. `Linked` says that a list of entries leads from one
hash to another. Where hashes do not collide and none is the first hash, the last hash determines
the entries (`Linked.unique`): the induction is on one chain from its end.
-/

namespace Chains

variable {α β H : Type}

/-- The entries lead from one hash to another, each naming the hash before it. -/
inductive Linked (prev hash : α → H) : H → List α → H → Prop
  | nil (h : H) : Linked prev hash h [] h
  | cons {a : α} {rest : List α} {last : H} :
      Linked prev hash (hash a) rest last → Linked prev hash (prev a) (a :: rest) last

variable {prev hash : α → H} {prev' hash' : β → H} {first middle last : H}

theorem Linked.append {as bs : List α} (h : Linked prev hash first as middle)
    (h' : Linked prev hash middle bs last) : Linked prev hash first (as ++ bs) last := by
  induction h with
  | nil => exact h'
  | cons _ ih => exact .cons (ih h')

theorem linked_nil : Linked prev hash first [] last ↔ first = last :=
  ⟨fun h => by cases h; rfl, fun h => h ▸ .nil _⟩

/-- A chain starts with its first entry. -/
theorem linked_cons {as : List α} {a : α} :
    Linked prev hash first (a :: as) last ↔
      first = prev a ∧ Linked prev hash (hash a) as last := by
  constructor
  · intro h
    generalize hl : a :: as = l at h
    cases h with
    | nil => cases hl
    | cons h =>
      cases hl
      exact ⟨rfl, h⟩
  · rintro ⟨rfl, h⟩
    exact .cons h

/-- A chain ends with its last entry. -/
theorem linked_snoc {as : List α} {a : α} :
    Linked prev hash first (as ++ [a]) last ↔
      Linked prev hash first as (prev a) ∧ hash a = last := by
  induction as generalizing first with
  | nil => rw [List.nil_append, linked_cons, linked_nil, linked_nil]
  | cons b bs ih => rw [List.cons_append, linked_cons, linked_cons, ih, and_assoc]

/-- A chain leads to one hash. -/
theorem Linked.last_unique {as : List α} {last' : H} (h : Linked prev hash first as last)
    (h' : Linked prev hash first as last') : last = last' := by
  induction h with
  | nil => exact linked_nil.1 h'
  | cons _ ih => exact ih (linked_cons.1 h').2

/-- Two chains with the same ends agree entry by entry, when equal hashes mean equal entries and no
hash is the first one. -/
theorem Linked.unique {R : α → β → Prop} {as : List α} {bs : List β}
    (ha : Linked prev hash first as last) (hb : Linked prev' hash' first bs last)
    (hinj : ∀ a ∈ as, ∀ b ∈ bs, hash a = hash' b → R a b ∧ prev a = prev' b)
    (hfirst : ∀ a ∈ as, hash a ≠ first) (hfirst' : ∀ b ∈ bs, hash' b ≠ first) :
    List.Forall₂ R as bs := by
  induction as using List.reverseRecOn generalizing bs last with
  | nil =>
    obtain rfl := linked_nil.1 ha
    rcases List.eq_nil_or_concat bs with rfl | ⟨bs, b, rfl⟩
    · exact .nil
    · rw [List.concat_eq_append, linked_snoc] at hb
      exact absurd hb.2 (hfirst' b (by simp))
  | append_singleton as a ih =>
    rw [linked_snoc] at ha
    rcases List.eq_nil_or_concat bs with rfl | ⟨bs, b, rfl⟩
    · obtain rfl := linked_nil.1 hb
      exact absurd ha.2 (hfirst a (by simp))
    · rw [List.concat_eq_append] at hb hinj hfirst' ⊢
      rw [linked_snoc] at hb
      obtain ⟨hab, hprev⟩ := hinj a (by simp) b (by simp) (ha.2.trans hb.2.symm)
      rw [hprev] at ha
      have hrec := ih ha.1 hb.1 (fun x hx y hy => hinj x (by simp [hx]) y (by simp [hy]))
        (fun x hx => hfirst x (by simp [hx])) fun y hy => hfirst' y (by simp [hy])
      exact List.rel_append hrec (.cons hab .nil)

end Chains
