import Mathlib.Data.List.Infix

/-!
# `LIKE` patterns, and texts inside texts

A pattern is a list of elements: a character, any one character, or any text. A pattern that is a
literal between two `%` finds the texts that contain the literal (`like_contains`). A literal that
avoids a separator is in a joined text where it is in one of the parts (`infix_join`).
-/

namespace Tables

variable {α : Type}

/-- An element of a pattern: a character, `_` or `%`. -/
inductive Wild (α : Type)
  | char (c : α)
  | one
  | many

/-- The pattern matches the whole text. -/
def like [DecidableEq α] : List (Wild α) → List α → Bool
  | [], s => s.isEmpty
  | .many :: p, s => s.tails.any (like p)
  | .one :: _, [] => false
  | .one :: p, _ :: s => like p s
  | .char _ :: _, [] => false
  | .char c :: p, d :: s => c = d && like p s

section
variable [DecidableEq α]

theorem like_many {p : List (Wild α)} {s : List α} :
    like (.many :: p) s = true ↔ ∃ t, t <:+ s ∧ like p t = true := by
  simp only [like, List.any_eq_true, List.mem_tails]

@[simp] theorem like_many_nil (s : List α) : like [.many] s = true :=
  like_many.2 ⟨[], List.nil_suffix, rfl⟩

theorem like_chars {l : List α} {p : List (Wild α)} {s : List α} :
    like (l.map .char ++ p) s = true ↔ ∃ t, s = l ++ t ∧ like p t = true := by
  induction l generalizing s with
  | nil => simp
  | cons c l ih =>
    rw [List.map_cons, List.cons_append]
    cases s with
    | nil => simp [like]
    | cons d s =>
      rw [like, Bool.and_eq_true, decide_eq_true_eq, ih]
      constructor
      · rintro ⟨rfl, t, rfl, ht⟩
        exact ⟨t, rfl, ht⟩
      · rintro ⟨t, hs, ht⟩
        obtain ⟨rfl, rfl⟩ := List.cons.inj hs
        exact ⟨rfl, t, rfl, ht⟩

/-- `%literal%` -/
theorem like_contains {l s : List α} :
    like (.many :: (l.map .char ++ [.many])) s = true ↔ l <:+: s := by
  rw [like_many]
  constructor
  · rintro ⟨t, ⟨u, rfl⟩, ht⟩
    obtain ⟨v, rfl, -⟩ := like_chars.1 ht
    exact ⟨u, v, by rw [List.append_assoc]⟩
  · rintro ⟨u, v, rfl⟩
    exact ⟨l ++ v, ⟨u, by rw [List.append_assoc]⟩, like_chars.2 ⟨v, rfl, like_many_nil v⟩⟩

end

/-! ## Texts inside joined texts -/

/-- A text without the character is on one side of it. -/
theorem infix_append_cons {t a b : List α} {c : α} (hc : c ∉ t) (h : t <:+: a ++ c :: b) :
    t <:+: a ∨ t <:+: b := by
  obtain ⟨u, v, h⟩ := h
  rcases List.append_eq_append_iff.1 h with ⟨w, rfl, -⟩ | ⟨w, hut, hcb⟩
  · exact .inl ⟨u, w, rfl⟩
  · cases w with
    | nil => exact .inl ⟨u, [], by rw [List.append_nil, hut, List.append_nil]⟩
    | cons d w =>
      obtain ⟨rfl, rfl⟩ := List.cons.inj hcb
      rcases List.append_eq_append_iff.1 hut with ⟨x, -, rfl⟩ | ⟨x, -, hx⟩
      · exact absurd (List.mem_append_right x List.mem_cons_self) hc
      · cases x with
        | nil =>
          rw [List.nil_append] at hx
          exact absurd (hx ▸ List.mem_cons_self) hc
        | cons e x =>
          obtain ⟨-, rfl⟩ := List.cons.inj hx
          exact .inr ⟨x, v, rfl⟩

/-- A text that avoids the separator between two others is in one of these. -/
theorem infix_append_sep {t a b sep : List α} (ht : t ≠ []) (hsep : sep ≠ [])
    (havoid : ∀ c ∈ sep, c ∉ t) (h : t <:+: a ++ (sep ++ b)) : t <:+: a ∨ t <:+: b := by
  induction sep generalizing a with
  | nil => exact absurd rfl hsep
  | cons c sep ih =>
    rcases infix_append_cons (havoid c List.mem_cons_self) h with h | h
    · exact .inl h
    · cases sep with
      | nil => exact .inr h
      | cons d sep =>
        rcases ih (List.cons_ne_nil _ _) (fun e he => havoid e (List.mem_cons_of_mem c he))
          (a := []) h with h | h
        · exact absurd (List.infix_nil.1 h) ht
        · exact .inr h

/-- A text that avoids the separator is in a joined text where it is in a part. -/
theorem infix_join {t sep : List α} {parts : List (List α)} (ht : t ≠ []) (hsep : sep ≠ [])
    (havoid : ∀ c ∈ sep, c ∉ t) :
    t <:+: (parts.intersperse sep).flatten ↔ ∃ p ∈ parts, t <:+: p := by
  induction parts with
  | nil => simp [ht]
  | cons p parts ih =>
    cases parts with
    | nil => simp
    | cons q parts =>
      rw [List.intersperse_cons_cons, List.flatten_cons, List.flatten_cons, List.exists_mem_cons_iff,
        ← ih]
      constructor
      · exact infix_append_sep ht hsep havoid
      · rintro (h | h)
        · exact h.trans (List.infix_append' [] p _)
        · exact h.trans ⟨p ++ sep, [], by simp⟩

/-- The same between brackets that the text avoids. -/
theorem infix_bracketed {t s : List α} {c d : α} (ht : t ≠ []) (hc : c ∉ t) (hd : d ∉ t) :
    t <:+: c :: (s ++ [d]) ↔ t <:+: s := by
  constructor
  · intro h
    rcases infix_append_cons (a := []) hc h with h | h
    · exact absurd (List.infix_nil.1 h) ht
    · rcases infix_append_cons hd h with h | h
      · exact h
      · exact absurd (List.infix_nil.1 h) ht
  · intro h
    exact h.trans ⟨[c], [d], by simp⟩

end Tables
