import Mathlib.Data.List.Forall2

/-!
# Paired lists

Two lists whose members are related place by place (`List.Forall₂`): each member has a partner, and
a relation between partners may use that they are members.
-/

namespace Chains

variable {α β : Type} {R S : α → β → Prop} {xs : List α} {ys : List β}

theorem exists_right (h : List.Forall₂ R xs ys) {x : α} (hx : x ∈ xs) : ∃ y ∈ ys, R x y := by
  induction h with
  | nil => cases hx
  | cons hxy _ ih =>
    rcases List.mem_cons.1 hx with rfl | hx
    · exact ⟨_, List.mem_cons_self, hxy⟩
    · obtain ⟨y, hy, hr⟩ := ih hx
      exact ⟨y, List.mem_cons_of_mem _ hy, hr⟩

theorem exists_left (h : List.Forall₂ R xs ys) {y : β} (hy : y ∈ ys) : ∃ x ∈ xs, R x y :=
  exists_right (List.Forall₂.flip h) hy

/-- What follows for each pair whose right member is in the list follows for the lists. -/
theorem imp_right (h : List.Forall₂ R xs ys) (hS : ∀ x, ∀ y ∈ ys, R x y → S x y) :
    List.Forall₂ S xs ys := by
  induction h with
  | nil => exact .nil
  | cons hxy _ ih =>
    refine .cons (hS _ _ List.mem_cons_self hxy) (ih fun x y hy hr => ?_)
    exact hS x y (List.mem_cons_of_mem _ hy) hr

end Chains
