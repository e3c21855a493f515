import AgencyRuntime.Chains.DepthFirst
import AgencyRuntime.Python.Str

/-!
# The task graph

`validate_task_graph` (validate-program-state.py) up to its recursive search for a cycle. The
interpreter gives the recursion a number of stack frames (`sys.getrecursionlimit()`, 1000, less those
that are in use), and raises `RecursionError` at the next call.
-/

namespace AgencyRuntime.Scripts

open Chains
open Py (lit)

/-- An entry of `nodes`. -/
structure Node where
  id : Str
  status : Str
  dependsOn : List Str
deriving DecidableEq

/-- What `validate_task_graph` raises: a `ProgramValidationError`, named by its check, or
`RecursionError`. -/
inductive GraphError
  | emptyNodes
  | emptyId (index : ℕ)
  | duplicateId (id : Str)
  | mismatch (missing extra : List Str)
  | invalidStatus (index : ℕ) (status : Str)
  | unknownNodes (index : ℕ) (unknown : List Str)
  | selfDependency (index : ℕ)
  | dependencyCycle (cycle : List Str)
  | recursionError
deriving DecidableEq

/-- `TASK_STATES` -/
def taskStates : List Str :=
  ["pending", "spec_ready", "approved", "in_progress", "review", "done", "blocked",
    "superseded"].map lit

/-- `sorted(…)` of a set of texts. -/
def sorted (s : List Str) : List Str := s.dedup.insertionSort (· ≤ ·)

/-- `unique_ids(nodes, "id", "nodes")` -/
def uniqueIds : ℕ → List Str → List Node → Except GraphError (List Str)
  | _, identifiers, [] => .ok identifiers
  | index, identifiers, node :: nodes =>
    if Py.strip node.id = [] then .error (.emptyId index)
    else if node.id ∈ identifiers then .error (.duplicateId node.id)
    else uniqueIds (index + 1) (identifiers ++ [node.id]) nodes

/-- The checks on each node before its dependencies are recorded. -/
def checkNodes (nodeIds : List Str) : ℕ → List Node → Except GraphError Unit
  | _, [] => .ok ()
  | index, node :: nodes =>
    let unknown := sorted (node.dependsOn.filter (· ∉ nodeIds))
    if node.status ∉ taskStates then .error (.invalidStatus index node.status)
    else if unknown ≠ [] then .error (.unknownNodes index unknown)
    else if node.id ∈ node.dependsOn then .error (.selfDependency index)
    else checkNodes nodeIds (index + 1) nodes

/-- `dependencies[node_id]` -/
def dependencies (nodes : List Node) (nodeId : Str) : List Str :=
  ((nodes.find? fun node => node.id = nodeId).map (·.dependsOn)).getD []

/-- What the search raises. -/
def haltError : Halt Str → GraphError
  | .cycle path => .dependencyCycle path
  | .frames => .recursionError

/-- `for node_id in …: visit(node_id, ())` -/
def visitNodes (frames : ℕ) (nodes : List Node) (roots : List Str) : Except GraphError Unit :=
  match visitRoots (dependencies nodes) frames roots .none with
  | .ok _ => .ok ()
  | .error halt => .error (haltError halt)

/-- `validate_task_graph`, up to its checks of the blockers. -/
def validateTaskGraph (frames : ℕ) (taskIds : List Str) (nodes : List Node) :
    Except GraphError Unit := do
  if nodes = [] then throw .emptyNodes
  let nodeIds ← uniqueIds 0 [] nodes
  if sorted nodeIds ≠ sorted taskIds then
    throw (.mismatch (sorted (taskIds.filter (· ∉ nodeIds))) (sorted (nodeIds.filter (· ∉ taskIds))))
  checkNodes nodeIds 0 nodes
  visitNodes frames nodes (sorted nodeIds)

/-! ## The search is exact -/

/-- A node of the graph names the other as a dependency. -/
def DependsOn (nodes : List Node) (x y : Str) : Prop :=
  ∃ node ∈ nodes, node.id = x ∧ y ∈ node.dependsOn

/-- The dependency relation has a cycle. -/
def Cyclic (nodes : List Node) : Prop := ∃ x, Relation.TransGen (DependsOn nodes) x x

/-- Node ids are unique, and dependencies name nodes. -/
structure WellFormed (nodes : List Node) : Prop where
  unique : (nodes.map (·.id)).Nodup
  known : ∀ node ∈ nodes, ∀ id ∈ node.dependsOn, id ∈ nodes.map (·.id)

variable {nodes : List Node} {roots : List Str} {frames : ℕ}

theorem dependencies_of_mem (h : (nodes.map (·.id)).Nodup) {node : Node} (hnode : node ∈ nodes) :
    dependencies nodes node.id = node.dependsOn := by
  rw [dependencies]
  cases hfind : nodes.find? fun other => other.id = node.id with
  | none =>
    have := List.find?_eq_none.1 hfind node hnode
    simp at this
  | some other =>
    have hid : other.id = node.id := by simpa using List.find?_some hfind
    rw [List.inj_on_of_nodup_map h (List.mem_of_find?_eq_some hfind) hnode hid]
    rfl

theorem child_dependencies (h : (nodes.map (·.id)).Nodup) :
    Child (dependencies nodes) = DependsOn nodes := by
  funext x y
  rw [Child, DependsOn, eq_iff_iff]
  constructor
  · intro hy
    rw [dependencies] at hy
    cases hfind : nodes.find? fun node => node.id = x with
    | none =>
      rw [hfind] at hy
      cases hy
    | some node =>
      rw [hfind] at hy
      exact ⟨node, List.mem_of_find?_eq_some hfind, by simpa using List.find?_some hfind, hy⟩
  · rintro ⟨node, hnode, rfl, hy⟩
    rwa [dependencies_of_mem h hnode]

/-- What starts a path of dependencies is a node. -/
theorem mem_of_transGen {x y : Str} (h : Relation.TransGen (DependsOn nodes) x y) :
    x ∈ nodes.map (·.id) := by
  obtain ⟨z, ⟨node, hnode, rfl, -⟩, -⟩ := Relation.TransGen.head'_iff.1 h
  exact List.mem_map_of_mem hnode

/-- An error is what the search stops for. -/
theorem visitNodes_error {e : GraphError} (h : visitNodes frames nodes roots = .error e) :
    ∃ halt, visitRoots (dependencies nodes) frames roots .none = .error halt ∧
      e = haltError halt := by
  rw [visitNodes] at h
  cases hvisit : visitRoots (dependencies nodes) frames roots .none with
  | ok m =>
    rw [hvisit] at h
    cases h
  | error halt =>
    rw [hvisit] at h
    exact ⟨halt, rfl, (Except.error.inj h).symm⟩

theorem visitNodes_cycle (h : WellFormed nodes) {path : List Str}
    (herror : visitNodes frames nodes roots = .error (.dependencyCycle path)) : Cyclic nodes := by
  obtain ⟨halt, hvisit, hhalt⟩ := visitNodes_error herror
  cases halt with
  | frames => cases hhalt
  | cycle found =>
    have hcycle := visitRoots_cycle hvisit
    rwa [child_dependencies h.unique] at hcycle

theorem visitNodes_ok (h : WellFormed nodes)
    (hroots : ∀ id, id ∈ roots ↔ id ∈ nodes.map (·.id))
    (hok : visitNodes frames nodes roots = .ok ()) : ¬ Cyclic nodes := by
  rintro ⟨x, hx⟩
  rw [visitNodes] at hok
  cases hvisit : visitRoots (dependencies nodes) frames roots .none with
  | error halt =>
    rw [hvisit] at hok
    cases hok
  | ok m =>
    have hacyclic := visitRoots_ok hvisit x ((hroots x).2 (mem_of_transGen hx))
    rw [child_dependencies h.unique] at hacyclic
    exact hacyclic hx

theorem visitNodes_frames (h : WellFormed nodes)
    (hroots : ∀ id, id ∈ roots ↔ id ∈ nodes.map (·.id)) (hlength : nodes.length < frames) :
    visitNodes frames nodes roots ≠ .error .recursionError := by
  intro herror
  obtain ⟨halt, hvisit, hhalt⟩ := visitNodes_error herror
  cases halt with
  | cycle found => cases hhalt
  | frames =>
    have hcard : (nodes.map (·.id)).toFinset.card = nodes.length := by
      rw [List.toFinset_card_of_nodup h.unique, List.length_map]
    have hclosed : ∀ x ∈ (nodes.map (·.id)).toFinset, ∀ y ∈ dependencies nodes x,
        y ∈ (nodes.map (·.id)).toFinset := by
      intro x hx y hy
      rw [List.mem_toFinset] at hx ⊢
      obtain ⟨node, hnode, rfl⟩ := List.mem_map.1 hx
      rw [dependencies_of_mem h.unique hnode] at hy
      exact h.known node hnode y hy
    exact visitRoots_frames hclosed (fun x hx => List.mem_toFinset.2 ((hroots x).1 hx))
      (hcard ▸ hlength) hvisit

/-- The search raises the cycle error only on a cycle and ends only without one; with more frames
than nodes it never lacks a frame, so it raises the cycle error exactly on a cycle. The order of the
nodes and of their dependencies is any. -/
theorem task_graph_search_exact (h : WellFormed nodes)
    (hroots : ∀ id, id ∈ roots ↔ id ∈ nodes.map (·.id)) (frames : ℕ) :
    ((∃ path, visitNodes frames nodes roots = .error (.dependencyCycle path)) → Cyclic nodes) ∧
    (visitNodes frames nodes roots = .ok () → ¬ Cyclic nodes) ∧
    (nodes.length < frames → visitNodes frames nodes roots ≠ .error .recursionError) ∧
    (nodes.length < frames →
      ((∃ path, visitNodes frames nodes roots = .error (.dependencyCycle path)) ↔
        Cyclic nodes)) := by
  have hcycle : (∃ path, visitNodes frames nodes roots = .error (.dependencyCycle path)) →
      Cyclic nodes := fun ⟨_, herror⟩ => visitNodes_cycle h herror
  refine ⟨hcycle, visitNodes_ok h hroots, visitNodes_frames h hroots,
    fun hlength => ⟨hcycle, fun hcyclic => ?_⟩⟩
  cases hresult : visitNodes frames nodes roots with
  | ok u => exact absurd hcyclic (visitNodes_ok h hroots hresult)
  | error e =>
    obtain ⟨halt, -, rfl⟩ := visitNodes_error hresult
    cases halt with
    | cycle found => exact ⟨found, rfl⟩
    | frames => exact absurd hresult (visitNodes_frames h hroots hlength)

/-- A task and one that it depends on. -/
def pair : List Node := [⟨lit "a", lit "pending", [lit "b"]⟩, ⟨lit "b", lit "done", []⟩]

theorem pair_wellFormed : WellFormed pair where
  unique := by decide
  known := by
    intro node hnode id hid
    rcases List.mem_cons.1 hnode with rfl | hnode
    · rw [List.mem_singleton.1 hid]
      decide
    · obtain rfl := List.mem_singleton.1 hnode
      cases hid

theorem task_graph_search_exact_pair :
    ((∃ path, visitNodes 3 pair [lit "b", lit "a"] = .error (.dependencyCycle path)) →
      Cyclic pair) ∧
    (visitNodes 3 pair [lit "b", lit "a"] = .ok () → ¬ Cyclic pair) ∧
    (pair.length < 3 → visitNodes 3 pair [lit "b", lit "a"] ≠ .error .recursionError) ∧
    (pair.length < 3 →
      ((∃ path, visitNodes 3 pair [lit "b", lit "a"] = .error (.dependencyCycle path)) ↔
        Cyclic pair)) :=
  task_graph_search_exact pair_wellFormed (fun id => by
    simp only [pair, List.map_cons, List.map_nil, List.mem_cons, List.not_mem_nil, or_false]
    exact Or.comm) 3

/-! ## The whole check -/

theorem mem_sorted {x : Str} {l : List Str} : x ∈ sorted l ↔ x ∈ l := by
  rw [sorted, List.mem_insertionSort, List.mem_dedup]

theorem uniqueIds_ok {index : ℕ} {identifiers nodeIds : List Str}
    (h : uniqueIds index identifiers nodes = .ok nodeIds) (hnodup : identifiers.Nodup) :
    nodeIds = identifiers ++ nodes.map (·.id) ∧ nodeIds.Nodup := by
  induction nodes generalizing index identifiers with
  | nil =>
    obtain rfl := Except.ok.inj h
    exact ⟨by simp, hnodup⟩
  | cons node nodes ih =>
    rw [uniqueIds] at h
    split at h
    · cases h
    split at h
    · cases h
    next hnew =>
    have hnodup' : (identifiers ++ [node.id]).Nodup := by
      rw [← List.concat_eq_append]
      exact hnodup.concat hnew
    obtain ⟨rfl, hids⟩ := ih h hnodup'
    exact ⟨by simp, hids⟩

theorem checkNodes_ok {index : ℕ} {nodeIds : List Str}
    (h : checkNodes nodeIds index nodes = .ok ()) :
    ∀ node ∈ nodes, ∀ id ∈ node.dependsOn, id ∈ nodeIds := by
  induction nodes generalizing index with
  | nil => exact fun node hnode => absurd hnode List.not_mem_nil
  | cons node nodes ih =>
    simp only [checkNodes] at h
    split at h
    · cases h
    split at h
    · cases h
    next hknown =>
    split at h
    · cases h
    intro other hother id hid
    rcases List.mem_cons.1 hother with rfl | hother
    · by_contra hunknown
      have hmem : id ∈ sorted (other.dependsOn.filter (· ∉ nodeIds)) :=
        mem_sorted.2 (List.mem_filter.2 ⟨hid, decide_eq_true hunknown⟩)
      rw [not_not.1 hknown] at hmem
      exact List.not_mem_nil hmem
    · exact ih h other hother id hid

/-- A graph that passes has no cycle. -/
theorem validateTaskGraph_acyclic {taskIds : List Str}
    (h : validateTaskGraph frames taskIds nodes = .ok ()) : ¬ Cyclic nodes := by
  rw [validateTaskGraph] at h
  split at h
  · cases h
  cases hids : uniqueIds 0 [] nodes with
  | error e =>
    rw [hids] at h
    cases h
  | ok nodeIds =>
    rw [hids] at h
    obtain ⟨rfl, hnodup⟩ := uniqueIds_ok hids List.nodup_nil
    replace h : (if sorted (nodes.map (·.id)) ≠ sorted taskIds then _ else _) = Except.ok () := h
    split at h
    · cases h
    cases hcheck : checkNodes ([] ++ nodes.map (·.id)) 0 nodes with
    | error e =>
      rw [hcheck] at h
      cases h
    | ok u =>
      rw [hcheck] at h
      exact visitNodes_ok ⟨hnodup, checkNodes_ok hcheck⟩ (fun id => mem_sorted) h

/-! ## A ring -/

/-- Node ids of one letter. -/
def letterId (i : ℕ) : Str := [Fin.ofNat _ (0x4E00 + i)]

/-- Each of 1000 nodes depends on the next one, and the last on the first. -/
def ring : List Node :=
  (List.range 1000).map fun i => ⟨letterId i, lit "pending", [letterId ((i + 1) % 1000)]⟩

theorem letterId_inj {i j : ℕ} (hi : i < 1000) (hj : j < 1000) (h : letterId i = letterId j) :
    i = j := by
  have hval := congrArg Fin.val (List.cons.inj h).1
  simp only [Fin.ofNat] at hval
  omega

theorem ring_ids : ring.map (·.id) = (List.range 1000).map letterId := by
  rw [ring, List.map_map]
  rfl

theorem ring_wellFormed : WellFormed ring where
  unique := by
    rw [ring_ids]
    refine List.nodup_range.map_on fun i hi j hj h => ?_
    exact letterId_inj (List.mem_range.1 hi) (List.mem_range.1 hj) h
  known := by
    rw [ring_ids]
    intro node hnode id hid
    obtain ⟨i, -, rfl⟩ := List.mem_map.1 hnode
    rw [List.mem_singleton.1 hid]
    exact List.mem_map_of_mem (List.mem_range.2 (Nat.mod_lt _ (by decide)))

theorem mem_ring {i : ℕ} (hi : i < 1000) :
    (⟨letterId i, lit "pending", [letterId ((i + 1) % 1000)]⟩ : Node) ∈ ring :=
  List.mem_map.2 ⟨i, List.mem_range.2 hi, rfl⟩

theorem ring_dependsOn {i : ℕ} (hi : i < 1000) :
    DependsOn ring (letterId i) (letterId ((i + 1) % 1000)) :=
  ⟨_, mem_ring hi, rfl, List.mem_singleton_self _⟩

theorem ring_dependencies {i : ℕ} (hi : i < 1000) :
    dependencies ring (letterId i) = [letterId ((i + 1) % 1000)] := by
  have hdependencies := dependencies_of_mem ring_wellFormed.unique (mem_ring hi)
  simpa only using hdependencies

/-- The first node leads to each later one, and the last leads back. -/
theorem ring_cyclic : Cyclic ring := by
  have hforward : ∀ i, i < 999 →
      Relation.TransGen (DependsOn ring) (letterId 0) (letterId (i + 1)) := by
    intro i hi
    induction i with
    | zero => exact .single (ring_dependsOn (i := 0) (by decide))
    | succ i ih =>
      have hstep := ring_dependsOn (i := i + 1) (by omega)
      rw [Nat.mod_eq_of_lt (by omega)] at hstep
      exact (ih (by omega)).tail hstep
  exact ⟨_, (hforward 998 (by decide)).tail (ring_dependsOn (i := 999) (by decide))⟩

/-- From a node with as many nodes after it as there are frames, the visit runs out of these. -/
theorem visit_ring {frames i : ℕ} (hi : i + frames ≤ 1000) {path : List Str} {m : Marks Str}
    (hvisited : m.visited = ∅) (hvisiting : ∀ j, j < 1000 → letterId j ∈ m.visiting → j < i) :
    visit (dependencies ring) frames (letterId i) path m = .error .frames := by
  induction frames generalizing i path m with
  | zero => rfl
  | succ frames ih =>
    have hlt : i < 1000 := by omega
    have hnot : letterId i ∉ m.visiting := fun h => absurd (hvisiting i hlt h) (Nat.lt_irrefl i)
    have hnot' : letterId i ∉ m.visited := by
      rw [hvisited]
      exact Finset.notMem_empty _
    rw [visit, if_neg hnot, if_neg hnot', ring_dependencies hlt]
    have hnext : visit (dependencies ring) frames (letterId ((i + 1) % 1000))
        (path ++ [letterId i]) { m with visiting := insert (letterId i) m.visiting } =
        .error .frames := by
      cases frames with
      | zero => rfl
      | succ frames =>
        rw [Nat.mod_eq_of_lt (by omega)]
        refine ih (by omega) hvisited fun j hj hmem => ?_
        rcases Finset.mem_insert.1 hmem with h | h
        · have := letterId_inj hj hlt h
          omega
        · have := hvisiting j hj h
          omega
    rw [List.foldlM_cons, hnext]
    rfl

/-- A task graph of 1000 nodes on a cycle: the default stack has no frame for the visit that would
meet the first node again, and the error is `RecursionError`. -/
theorem ring_exhausts_frames :
    ¬ ∀ (nodes : List Node) (roots : List Str), WellFormed nodes →
      (∀ id, id ∈ roots ↔ id ∈ nodes.map (·.id)) →
      ((∃ path, visitNodes 1000 nodes roots = .error (.dependencyCycle path)) ↔ Cyclic nodes) := by
  intro h
  have hmem : ∀ id, id ∈ (List.range 1000).map letterId ↔ id ∈ ring.map (·.id) := by
    intro id
    rw [ring_ids]
  obtain ⟨path, hpath⟩ := (h ring _ ring_wellFormed hmem).2 ring_cyclic
  have hfirst : visit (dependencies ring) 1000 (letterId 0) [] .none = .error .frames :=
    visit_ring (by omega) rfl fun j _ hj => absurd hj (Finset.notMem_empty _)
  have hroots : (List.range 1000).map letterId =
      letterId 0 :: (List.range' 1 999).map letterId := by
    rw [List.range_eq_range', List.range'_succ, List.map_cons]
  rw [visitNodes, visitRoots, hroots, List.foldlM_cons, hfirst] at hpath
  cases hpath

end AgencyRuntime.Scripts
