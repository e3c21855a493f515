import Mathlib.Data.List.Basic

/-!
# Counting processes

The processes of a system are a list of their local states. When one of them moves, the number of
processes in a kind of state changes by what it leaves and what it enters (`countP_set`); a kind of
state that at most one process is in names that process (`eq_of_countP_le_one`).
-/

namespace Chains

variable {α : Type} {l : List α} {i j : ℕ} {x y : α} {p : α → Bool}

/-- One or none. -/
def tally (b : Bool) : ℕ := if b then 1 else 0

@[simp] theorem tally_true : tally true = 1 := rfl

@[simp] theorem tally_false : tally false = 0 := rfl

theorem countP_cons_tally (p : α → Bool) (x : α) (l : List α) :
    (x :: l).countP p = l.countP p + tally (p x) := List.countP_cons

/-- A process moves from one state to another. -/
theorem countP_set (h : l[i]? = some x) (p : α → Bool) (y : α) :
    (l.set i y).countP p + tally (p x) = l.countP p + tally (p y) := by
  induction l generalizing i with
  | nil => cases h
  | cons z l ih =>
    cases i with
    | zero =>
      obtain rfl := Option.some.inj h
      rw [List.set_cons_zero, countP_cons_tally, countP_cons_tally]
      omega
    | succ i =>
      rw [List.getElem?_cons_succ] at h
      rw [List.set_cons_succ, countP_cons_tally, countP_cons_tally]
      have := ih h
      omega

theorem countP_pos_of_getElem? (h : l[i]? = some x) (hx : p x = true) : 0 < l.countP p :=
  List.countP_pos_iff.2 ⟨x, List.mem_of_getElem? h, hx⟩

/-- Of the states that at most one process is in. -/
theorem eq_of_countP_le_one (h : l.countP p ≤ 1) (hi : l[i]? = some x) (hx : p x = true)
    (hj : l[j]? = some y) (hy : p y = true) : i = j := by
  induction l generalizing i j with
  | nil => cases hi
  | cons z l ih =>
    rw [countP_cons_tally] at h
    cases i with
    | zero =>
      cases j with
      | zero => rfl
      | succ j =>
        obtain rfl := Option.some.inj hi
        have := countP_pos_of_getElem? (show l[j]? = some y from hj) hy
        rw [hx, tally_true] at h
        omega
    | succ i =>
      cases j with
      | zero =>
        obtain rfl := Option.some.inj hj
        have := countP_pos_of_getElem? (show l[i]? = some x from hi) hx
        rw [hy, tally_true] at h
        omega
      | succ j => rw [ih (by omega) hi hj]

end Chains
