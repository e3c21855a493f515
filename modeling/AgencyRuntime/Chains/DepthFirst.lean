import Mathlib.Data.Finset.Card
import Mathlib.Data.Finset.SDiff
import Mathlib.Logic.Relation

/-!
# Depth-first search for a cycle

A recursive visit over the children of a node keeps the nodes that it is visiting and those that it
has visited, and stops when it meets a node that it is visiting. The recursion has a number of stack
frames; without one left it stops too. A visit that stops for a node has found a cycle
(`visit_cycle`), one that ends has visited nodes without one (`visit_ok`), and more frames than nodes
are always enough (`visit_frames`).
-/

namespace Chains

variable {α : Type}

/-- Why a search stops. -/
inductive Halt (α : Type)
  | cycle (path : List α)
  | frames
deriving DecidableEq

/-- The nodes that the search is visiting and has visited. -/
structure Marks (α : Type) where
  visiting : Finset α
  visited : Finset α

/-- The visit of a node, and of its children one after the other. -/
def visit [DecidableEq α] (children : α → List α) : ℕ → α → List α → Marks α → Except (Halt α) (Marks α)
  | 0, _, _, _ => .error .frames
  | frames + 1, node, path, m =>
    if node ∈ m.visiting then .error (.cycle (path ++ [node]))
    else if node ∈ m.visited then .ok m
    else do
      let m ← (children node).foldlM (fun m child => visit children frames child (path ++ [node]) m)
        { m with visiting := insert node m.visiting }
      return { visiting := m.visiting.erase node, visited := insert node m.visited }

/-- The visit of several roots. -/
def visitRoots [DecidableEq α] (children : α → List α) (frames : ℕ) (roots : List α) (m : Marks α) :
    Except (Halt α) (Marks α) :=
  roots.foldlM (fun m root => visit children frames root [] m) m

/-- What a node leads to. -/
def Child (children : α → List α) (x y : α) : Prop := y ∈ children x

/-- What has been visited is closed under children and has no cycle, and is not being visited. -/
structure Marks.Sound (children : α → List α) (m : Marks α) : Prop where
  closed : ∀ x ∈ m.visited, ∀ y ∈ children x, y ∈ m.visited
  acyclic : ∀ x ∈ m.visited, ¬ Relation.TransGen (Child children) x x
  disjoint : ∀ x ∈ m.visiting, x ∉ m.visited

/-- What a visit of the nodes leaves: they have been visited, and no other is being visited than
before. -/
structure Marks.After (children : α → List α) (nodes : List α) (m m' : Marks α) : Prop where
  sound : m'.Sound children
  visiting : m'.visiting = m.visiting
  visited : m.visited ⊆ m'.visited
  mem : ∀ x ∈ nodes, x ∈ m'.visited

variable {children : α → List α} {frames : ℕ} {m m' : Marks α}

/-- From a visited node the children lead to visited nodes only. -/
theorem Marks.Sound.reach (h : m.Sound children) {x y : α} (hx : x ∈ m.visited)
    (hxy : Relation.TransGen (Child children) x y) : y ∈ m.visited := by
  induction hxy with
  | single hchild => exact h.closed x hx _ hchild
  | tail _ hchild ih => exact h.closed _ ih _ hchild

/-- The loop over nodes, when each visit does what it should. -/
theorem foldlM_after {step : Marks α → α → Except (Halt α) (Marks α)} {nodes : List α}
    (hstep : ∀ node ∈ nodes, ∀ m₁ m₂, m₁.Sound children → m₁.visiting = m.visiting →
      step m₁ node = .ok m₂ → m₁.After children [node] m₂)
    (hm : m.Sound children) (h : nodes.foldlM step m = .ok m') : m.After children nodes m' := by
  induction nodes generalizing m with
  | nil =>
    obtain rfl := Except.ok.inj h
    exact ⟨hm, rfl, Finset.Subset.refl _, fun x hx => absurd hx List.not_mem_nil⟩
  | cons node nodes ih =>
    rw [List.foldlM_cons] at h
    cases hnode : step m node with
    | error e =>
      rw [hnode] at h
      cases h
    | ok m₁ =>
      rw [hnode] at h
      have hfirst := hstep node List.mem_cons_self m m₁ hm rfl hnode
      have hrest := ih (fun n hn m₂ m₃ hsound hvisiting => hstep n (List.mem_cons_of_mem node hn)
        m₂ m₃ hsound (hvisiting.trans hfirst.visiting)) hfirst.sound h
      refine ⟨hrest.sound, hrest.visiting.trans hfirst.visiting,
        hfirst.visited.trans hrest.visited, fun x hx => ?_⟩
      rcases List.mem_cons.1 hx with rfl | hx
      · exact hrest.visited (hfirst.mem x List.mem_cons_self)
      · exact hrest.mem x hx

/-- A loop that stops, stops at one of its nodes, with the nodes before it visited. -/
theorem foldlM_error {step : Marks α → α → Except (Halt α) (Marks α)} {nodes : List α}
    {e : Halt α} {good : Marks α → Prop} (hm : good m)
    (hstep : ∀ node ∈ nodes, ∀ m₁ m₂, good m₁ → step m₁ node = .ok m₂ → good m₂)
    (h : nodes.foldlM step m = .error e) :
    ∃ node ∈ nodes, ∃ m₁, good m₁ ∧ step m₁ node = .error e := by
  induction nodes generalizing m with
  | nil => cases h
  | cons node nodes ih =>
    rw [List.foldlM_cons] at h
    cases hnode : step m node with
    | error e' =>
      rw [hnode] at h
      cases h
      exact ⟨node, List.mem_cons_self, m, hm, hnode⟩
    | ok m₁ =>
      rw [hnode] at h
      obtain ⟨n, hn, found⟩ := ih (hstep node List.mem_cons_self m m₁ hm hnode)
        (fun n hn => hstep n (List.mem_cons_of_mem node hn)) h
      exact ⟨n, List.mem_cons_of_mem node hn, found⟩

variable [DecidableEq α]

/-- The marks inside the visit of a node. -/
theorem Marks.Sound.enter (hm : m.Sound children) {node : α} (hvisited : node ∉ m.visited) :
    ({ m with visiting := insert node m.visiting } : Marks α).Sound children := by
  refine ⟨hm.closed, hm.acyclic, fun x hx => ?_⟩
  rcases Finset.mem_insert.1 hx with rfl | hx
  · exact hvisited
  · exact hm.disjoint x hx

/-- A visit that ends has visited the node, and nodes without a cycle. -/
theorem visit_ok {node : α} {path : List α} (hm : m.Sound children)
    (h : visit children frames node path m = .ok m') : m.After children [node] m' := by
  induction frames generalizing node path m m' with
  | zero => cases h
  | succ frames ih =>
    rw [visit] at h
    split at h
    · cases h
    next hvisiting =>
    split at h
    next hvisited =>
      obtain rfl := Except.ok.inj h
      refine ⟨hm, rfl, Finset.Subset.refl _, fun x hx => ?_⟩
      rwa [List.mem_singleton.1 hx]
    next hvisited =>
    cases hloop : (children node).foldlM
        (fun m child => visit children frames child (path ++ [node]) m)
        { m with visiting := insert node m.visiting } with
    | error e =>
      rw [hloop] at h
      cases h
    | ok m₁ =>
      rw [hloop] at h
      obtain rfl := Except.ok.inj h
      have hafter := foldlM_after (fun child _ m₂ m₃ h2 _ h3 => ih h2 h3) (hm.enter hvisited) hloop
      -- the children are visited, and the node itself was being visited all along
      have hnode : node ∉ m₁.visited :=
        hafter.sound.disjoint node (hafter.visiting ▸ Finset.mem_insert_self node _)
      refine ⟨⟨fun x hx y hy => ?_, fun x hx hcycle => ?_, fun x hx => ?_⟩, ?_, ?_, ?_⟩
      · rcases Finset.mem_insert.1 hx with rfl | hx
        · exact Finset.mem_insert_of_mem (hafter.mem y hy)
        · exact Finset.mem_insert_of_mem (hafter.sound.closed x hx y hy)
      · rcases Finset.mem_insert.1 hx with rfl | hx
        · obtain ⟨y, hy, hback⟩ := Relation.TransGen.head'_iff.1 hcycle
          rcases Relation.reflTransGen_iff_eq_or_transGen.1 hback with rfl | hback
          · exact hnode (hafter.mem x hy)
          · exact hnode (hafter.sound.reach (hafter.mem y hy) hback)
        · exact hafter.sound.acyclic x hx hcycle
      · obtain ⟨hne, hx⟩ := Finset.mem_erase.1 hx
        rw [Finset.mem_insert, not_or]
        exact ⟨hne, hafter.sound.disjoint x hx⟩
      · rw [hafter.visiting, Finset.erase_insert hvisiting]
      · exact hafter.visited.trans (Finset.subset_insert _ _)
      · intro x hx
        rw [List.mem_singleton.1 hx]
        exact Finset.mem_insert_self _ _

/-- A visit stops at a node that is being visited, or where the visit of a child does. -/
theorem visit_error {node : α} {path : List α} {e : Halt α} (hm : m.Sound children)
    (h : visit children (frames + 1) node path m = .error e) :
    (node ∈ m.visiting ∧ e = .cycle (path ++ [node])) ∨
      (node ∉ m.visiting ∧ ∃ child ∈ children node, ∃ m₁, m₁.Sound children ∧
        m₁.visiting = insert node m.visiting ∧
        visit children frames child (path ++ [node]) m₁ = .error e) := by
  rw [visit] at h
  split at h
  next hvisiting => exact .inl ⟨hvisiting, (Except.error.inj h).symm⟩
  next hvisiting =>
  split at h
  · cases h
  next hvisited =>
  cases hloop : (children node).foldlM
      (fun m child => visit children frames child (path ++ [node]) m)
      { m with visiting := insert node m.visiting } with
  | ok m₁ =>
    rw [hloop] at h
    cases h
  | error e' =>
    rw [hloop] at h
    cases h
    let good (m₁ : Marks α) : Prop := m₁.Sound children ∧ m₁.visiting = insert node m.visiting
    have hstep : ∀ child ∈ children node, ∀ m₁ m₂, good m₁ →
        visit children frames child (path ++ [node]) m₁ = .ok m₂ → good m₂ := by
      intro child _ m₁ m₂ hgood hok
      have hafter := visit_ok hgood.1 hok
      exact ⟨hafter.sound, hafter.visiting.trans hgood.2⟩
    obtain ⟨child, hchild, m₁, hgood, herror⟩ :=
      foldlM_error (show good _ from ⟨hm.enter hvisited, rfl⟩) hstep hloop
    exact .inr ⟨hvisiting, child, hchild, m₁, hgood.1, hgood.2, herror⟩

/-- A visit that meets a node again has found a cycle, when what is being visited leads to the
node. -/
theorem visit_cycle {node : α} {path found : List α} (hm : m.Sound children)
    (hpath : ∀ x ∈ m.visiting, Relation.TransGen (Child children) x node)
    (h : visit children frames node path m = .error (.cycle found)) :
    ∃ x, Relation.TransGen (Child children) x x := by
  induction frames generalizing node path m with
  | zero => cases h
  | succ frames ih =>
    rcases visit_error hm h with ⟨hvisiting, -⟩ | ⟨-, child, hchild, m₁, hsound, hm₁, herror⟩
    · exact ⟨node, hpath node hvisiting⟩
    · refine ih hsound (fun x hx => ?_) herror
      rw [hm₁] at hx
      rcases Finset.mem_insert.1 hx with rfl | hx
      · exact .single hchild
      · exact (hpath x hx).tail hchild

/-- With more frames than nodes that are not being visited, a visit never lacks one. -/
theorem visit_frames {node : α} {path : List α} {nodes : Finset α} (hm : m.Sound children)
    (hclosed : ∀ x ∈ nodes, ∀ y ∈ children x, y ∈ nodes) (hnode : node ∈ nodes)
    (hframes : (nodes \ m.visiting).card < frames) :
    visit children frames node path m ≠ .error .frames := by
  induction frames generalizing node path m with
  | zero => exact absurd hframes (Nat.not_lt_zero _)
  | succ frames ih =>
    intro h
    rcases visit_error hm h with ⟨-, hcycle⟩ | ⟨hvisiting, child, hchild, m₁, hsound, hm₁, herror⟩
    · cases hcycle
    · have hless : (nodes \ insert node m.visiting).card < (nodes \ m.visiting).card := by
        refine Finset.card_lt_card ⟨Finset.sdiff_subset_sdiff (Finset.Subset.refl _)
          (Finset.subset_insert _ _), fun hsub => ?_⟩
        have hmem := hsub (Finset.mem_sdiff.2 ⟨hnode, hvisiting⟩)
        exact (Finset.mem_sdiff.1 hmem).2 (Finset.mem_insert_self _ _)
      refine ih hsound (hclosed node hnode child hchild) ?_ herror
      rw [hm₁]
      omega

/-! ## From all roots -/

/-- No marks. -/
def Marks.none : Marks α := ⟨∅, ∅⟩

omit [DecidableEq α] in
theorem Marks.none_sound : (Marks.none : Marks α).Sound children :=
  ⟨fun x hx => absurd hx (Finset.notMem_empty x), fun x hx => absurd hx (Finset.notMem_empty x),
    fun x hx => absurd hx (Finset.notMem_empty x)⟩

/-- The search from the roots ends only where none of them is on a cycle. -/
theorem visitRoots_ok {roots : List α} (h : visitRoots children frames roots .none = .ok m') :
    ∀ x ∈ roots, ¬ Relation.TransGen (Child children) x x := by
  have hafter := foldlM_after (fun root _ m₁ m₂ hsound _ hok => visit_ok hsound hok)
    Marks.none_sound h
  exact fun x hx => hafter.sound.acyclic x (hafter.mem x hx)

/-- What the search from the roots stops for. -/
theorem visitRoots_error {roots : List α} {e : Halt α}
    (h : visitRoots children frames roots .none = .error e) :
    ∃ root ∈ roots, ∃ m₁ : Marks α, m₁.Sound children ∧ m₁.visiting = ∅ ∧
      visit children frames root [] m₁ = .error e := by
  let good (m₁ : Marks α) : Prop := m₁.Sound children ∧ m₁.visiting = ∅
  have hstep : ∀ root ∈ roots, ∀ m₁ m₂, good m₁ →
      visit children frames root [] m₁ = .ok m₂ → good m₂ := by
    intro root _ m₁ m₂ hgood hok
    have hafter := visit_ok hgood.1 hok
    exact ⟨hafter.sound, hafter.visiting.trans hgood.2⟩
  obtain ⟨root, hroot, m₁, hgood, herror⟩ :=
    foldlM_error (show good _ from ⟨Marks.none_sound, rfl⟩) hstep h
  exact ⟨root, hroot, m₁, hgood.1, hgood.2, herror⟩

/-- The search stops for a cycle only where there is one. -/
theorem visitRoots_cycle {roots found : List α}
    (h : visitRoots children frames roots .none = .error (.cycle found)) :
    ∃ x, Relation.TransGen (Child children) x x := by
  obtain ⟨root, -, m₁, hsound, hvisiting, herror⟩ := visitRoots_error h
  refine visit_cycle hsound (fun x hx => ?_) herror
  rw [hvisiting] at hx
  exact absurd hx (Finset.notMem_empty x)

/-- More frames than nodes are enough. -/
theorem visitRoots_frames {roots : List α} {nodes : Finset α}
    (hclosed : ∀ x ∈ nodes, ∀ y ∈ children x, y ∈ nodes) (hroots : ∀ x ∈ roots, x ∈ nodes)
    (hframes : nodes.card < frames) :
    visitRoots children frames roots .none ≠ .error .frames := by
  intro h
  obtain ⟨root, hroot, m₁, hsound, hvisiting, herror⟩ := visitRoots_error h
  refine visit_frames hsound hclosed (hroots root hroot) ?_ herror
  rwa [hvisiting, Finset.sdiff_empty]

end Chains
