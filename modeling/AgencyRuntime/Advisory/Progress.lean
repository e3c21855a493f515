import AgencyRuntime.Advisory.Protocol
import Mathlib.Algebra.BigOperators.Group.Finset.Basic
import Mathlib.Algebra.Order.BigOperators.Group.Finset
import Mathlib.Data.Set.Finite.Lemmas
import Mathlib.Order.WithBot

/-!
# Sessions that wait for each other come to an end

Where every session takes its locks in one order (`Ordered`), a session that waits for a lock holds
only smaller ones, so of the sessions that wait one waits for the greatest lock, and nobody who
waits holds that: some session can go on (`Invariant.over`). No session goes on for ever, since each
of its statements leaves it fewer (`Advance.lt`). Hence the sessions in progress all end, in
whatever order they go on (`Invariant.ends`).
-/

namespace Advisory

open Tables

variable {α K β R : Type} {S : Schema α} {P : Protocol S K β}

/-- Statements of the sessions in progress, and how many. -/
inductive Advances (P : Protocol S K β) (w : World S K) : Nat → World S K → Prop
  | refl : Advances P w 0 w
  | step {n : Nat} {w' w'' : World S K} {events : List (Event S β)} :
      Advances P w n w' → Advance P w' events w'' → Advances P w (n + 1) w''

/-- The sessions in progress go on for a bounded number of statements, and where none of them can go
on they have all ended. -/
def Ends (P : Protocol S K β) (w : World S K) : Prop :=
  ∃ bound, ∀ n w', Advances P w n w' → n ≤ bound ∧
    ((∀ events w'', ¬ Advance P w' events w'') → ∀ c, w'.sessions c = none)

/-- The sessions in progress take their locks in one order. -/
def Ordered (P : Protocol S K β) [LT R] (rank : K → R) (w : World S K) : Prop :=
  ∀ c s, w.sessions c = some s → (P.lockKeys s.request).Pairwise fun k l => rank k < rank l

/-- What the sessions in progress take locks for. -/
def World.uses {I : Type} (ids : α → List I) (w : World S K) : Set I :=
  {i | ∃ c s, w.sessions c = some s ∧ i ∈ ids s.request}

/-- Locks are ordered as what they are taken for is, where no two of these have one lock. -/
theorem Ordered.of_injOn {I : Type} [LT I] [Nonempty I] {w : World S K} {ids : α → List I}
    {hash : I → K} (hkeys : ∀ x, P.lockKeys x = (ids x).map hash)
    (hsorted : ∀ x, (ids x).Pairwise (· < ·))
    (hhash : Set.InjOn hash (w.uses ids)) :
    ∃ rank : K → I, Ordered P rank w := by
  refine ⟨Function.invFunOn hash (w.uses ids), fun c s hc => ?_⟩
  have hinv {i : I} (hi : i ∈ ids s.request) := hhash.leftInvOn_invFunOn ⟨c, s, hc, hi⟩
  rw [hkeys, List.pairwise_map]
  refine (hsorted s.request).imp_of_mem fun hi hj hlt => ?_
  rw [hinv hi, hinv hj]
  exact hlt

/-- The statements that a session has left, at most. -/
def Session.left : Session S K → Nat
  | .locking _ _ waiting => waiting.length + 3
  | .found .. | .absent .. => 2
  | .reading .. | .inserted .. => 1

/-- The lock that a session waits for. -/
def Session.wanted (rank : K → R) : Session S K → WithBot R
  | .locking _ _ (k :: _) => rank k
  | .locking _ _ [] | .found .. | .absent .. | .reading .. | .inserted .. => ⊥

section
variable {w w' : World S K} {events : List (Event S β)} {n : Nat}

/-- A statement moves one session, which has fewer left or ends. -/
theorem Advance.moves (h : Advance P w events w') :
    ∃ c s, w.sessions c = some s ∧ ∃ next : Option (Session S K),
      w'.sessions = Function.update w.sessions c next ∧
        ∀ s', next = some s' → s'.request = s.request ∧ s'.left < s.left := by
  cases h with
  | acquire hc _ | find hc _ | miss hc _ | lock hc _ _ _ | insert hc _ _ _ =>
    refine ⟨_, _, hc, some _, rfl, ?_⟩
    rintro _ ⟨⟩
    refine ⟨rfl, ?_⟩
    simp [Session.left]
  | violate hc _ _ | refuse hc _ | commitRead hc | commitInsert hc _ =>
    exact ⟨_, _, hc, none, rfl, nofun⟩

theorem Advance.ordered [LT R] {rank : K → R} (h : Advance P w events w')
    (hord : Ordered P rank w) : Ordered P rank w' := by
  obtain ⟨c, s, hc, next, hw', hnext⟩ := h.moves
  intro d s' hd
  rw [hw', Function.update_apply] at hd
  split at hd
  · rw [(hnext s' hd).1]
    exact hord c s hc
  · exact hord d s' hd

/-- The statements that the first sessions have left. -/
def World.left (w : World S K) (n : Nat) : Nat :=
  ∑ c ∈ Finset.range n, (w.sessions c).elim 0 Session.left

theorem Advance.lt (h : Advance P w events w') (hn : ∀ c, n ≤ c → w.sessions c = none) :
    w'.left n < w.left n ∧ ∀ c, n ≤ c → w'.sessions c = none := by
  obtain ⟨c, s, hc, next, hw', hnext⟩ := h.moves
  have hlt : c < n := by
    by_contra hge
    rw [hn c (by omega)] at hc
    cases hc
  have hless : next.elim 0 Session.left < s.left := by
    cases next with
    | none => cases s <;> simp [Session.left]
    | some s' => exact (hnext s' rfl).2
  refine ⟨Finset.sum_lt_sum (fun d _ => ?_) ⟨c, Finset.mem_range.2 hlt, ?_⟩, fun d hd => ?_⟩
  · rw [hw', Function.update_apply]
    split
    · next heq =>
      rw [heq, hc]
      exact hless.le
    · exact le_rfl
  · rw [hw', Function.update_self, hc]
    exact hless
  · rw [hw', Function.update_of_ne (by omega)]
    exact hn d hd

/-- Where no session can go on, each of them waits for a lock. -/
theorem Invariant.waiting (h : Invariant P w) (hstuck : ∀ events w', ¬ Advance P w events w')
    {c : Nat} {s : Session S K} (hc : w.sessions c = some s) :
    ∃ x held k waiting, s = .locking x held (k :: waiting) := by
  have hread : ∀ d x row, w.sessions d ≠ some (.reading x row) := fun d x row hd =>
    hstuck _ _ (.commitRead hd)
  have hinserted : ∀ d x row, w.sessions d ≠ some (.inserted x row) := by
    intro d x row hd
    have hfresh : w.table.Fresh row := fresh_iff_keys.2 (h.knows d _ hd).2
    cases hins : w.table.insert row with
    | none => exact Table.insert_eq_none.1 hins hfresh
    | some t => exact hstuck _ _ (.commitInsert hd hins)
  cases s with
  | locking x held waiting =>
    cases waiting with
    | cons k waiting => exact ⟨x, held, k, waiting, rfl⟩
    | nil =>
      cases hprior : P.prior x (keys w.table) with
      | some key => exact absurd (.find hc hprior) (hstuck _ _)
      | none => exact absurd (.miss hc hprior) (hstuck _ _)
  | found x key =>
    obtain ⟨row, hrow, hkey⟩ := List.mem_map.1 (h.knows c _ hc).1
    refine absurd (.lock hc hrow hkey fun d s' _ hd => ?_) (hstuck _ _)
    cases s' with
    | reading y r => exact absurd hd (hread d y r)
    | locking | found | absent | inserted => exact nofun
  | absent x =>
    cases hstore : P.store x with
    | none => exact absurd (.refuse hc hstore) (hstuck _ _)
    | some row =>
      by_cases hfresh : w.table.Fresh row
      · exact absurd (.insert hc hstore (fun d y r _ hd => absurd hd (hinserted d y r)) hfresh)
          (hstuck _ _)
      · exact absurd (.violate hc hstore hfresh) (hstuck _ _)
  | reading x row => exact absurd hc (hread c x row)
  | inserted x row => exact absurd hc (hinserted c x row)

/-- Where no session can go on, none is in progress. -/
theorem Invariant.over [LinearOrder R] {rank : K → R} (h : Invariant P w) (hord : Ordered P rank w)
    (hstuck : ∀ events w', ¬ Advance P w events w') (c : Nat) : w.sessions c = none := by
  by_contra hsome
  obtain ⟨n, hn⟩ := h.finite
  have hfinite : {d | w.sessions d ≠ none}.Finite := by
    refine (Set.finite_lt_nat n).subset fun d hd => ?_
    by_contra hge
    exact hd (hn d (not_lt.1 hge))
  obtain ⟨d, hd, hmax⟩ := Set.exists_max_image _
    (fun d => (w.sessions d).elim ⊥ (Session.wanted rank)) hfinite ⟨c, hsome⟩
  obtain ⟨s, hs⟩ := Option.ne_none_iff_exists'.1 hd
  obtain ⟨x, held, k, waiting, rfl⟩ := h.waiting hstuck hs
  -- The greatest lock that is waited for is held by a session that waits for a greater one.
  have hblocked : ¬ w.Free P d k := fun hfree => hstuck _ _ (.acquire hs hfree)
  unfold World.Free at hblocked
  push Not at hblocked
  obtain ⟨e, s', hne, he, hk⟩ := hblocked
  obtain ⟨y, held', l, waiting', rfl⟩ := h.waiting hstuck he
  have hall : held'.reverse ++ l :: waiting' = P.lockKeys y := h.knows e _ he
  have hpairs := hord e _ he
  rw [Session.request, ← hall] at hpairs
  have hlt : rank k < rank l :=
    (List.pairwise_append.1 hpairs).2.2 k (List.mem_reverse.2 hk) l List.mem_cons_self
  have hle := hmax e (by simp [he])
  simp only [he, hs, Option.elim_some, Session.wanted, WithBot.coe_le_coe] at hle
  exact absurd hlt hle.not_gt

/-- The sessions in progress end. -/
theorem Invariant.ends [LinearOrder R] {rank : K → R} (h : Invariant P w)
    (hord : Ordered P rank w) : Ends P w := by
  obtain ⟨n, hn⟩ := h.finite
  refine ⟨w.left n, fun m w' hsteps => ?_⟩
  have hall : m + w'.left n ≤ w.left n ∧ (∀ c, n ≤ c → w'.sessions c = none) ∧
      Invariant P w' ∧ Ordered P rank w' := by
    induction hsteps with
    | refl => exact ⟨by omega, hn, h, hord⟩
    | step _ hstep ih =>
      obtain ⟨hle, hnone, hinv, hord'⟩ := ih
      obtain ⟨hlt, hnone'⟩ := hstep.lt hnone
      exact ⟨by omega, hnone', hinv.advance hstep, hstep.ordered hord'⟩
  obtain ⟨hle, -, hinv, hord'⟩ := hall
  exact ⟨by omega, hinv.over hord'⟩

end

end Advisory
