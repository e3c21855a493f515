import AgencyRuntime.Chains.Tally
import Mathlib.Data.Int.Notation
import Mathlib.Data.List.Nodup
import Mathlib.Data.List.Range

/-!
# The connection pool

`ConnectionPool` (postgres.py) as a machine: one step is one section under the pool's lock, or the
end of a blocking operation outside it (a connect, a health check, the block of a `with` statement).
A call of `connection()` is a process with a phase; any number of them are under way. A connection
is the number of connections that were opened before it.
-/

namespace AgencyRuntime.Pool

open Chains

/-- Why a connection is discarded: its health check failed, the pool was closed during the checkout,
or the block left it broken. -/
inductive Discard
  | unhealthy
  | poolClosed
  | broken
deriving DecidableEq

/-- Where a call is. `entering` is at the lock of `_checkout`, or waits there; `failed` has an
exception of the connect; `discarding` is in `_discard` before its lock; `closing` has given its slot
back in `_release` and closes the connection. -/
inductive Phase
  | entering
  | opening
  | failed
  | pinging (connection : ℕ)
  | healthy (connection : ℕ)
  | held (connection : ℕ)
  | discarding (connection : ℕ) (why : Discard)
  | closing (connection : ℕ)
  | ended
deriving DecidableEq

/-- The pool, its calls, and the connections that `close` still closes. -/
structure State where
  idle : List ℕ
  total : ℤ
  closed : Bool
  calls : List Phase
  closing : List ℕ
  opened : ℕ

/-- `ConnectionPool.__init__` -/
def State.init (minSize : ℕ) : State where
  idle := List.range minSize
  total := minSize
  closed := false
  calls := []
  closing := []
  opened := minSize

/-- How the block of `connection()` ends, with its commit or rollback; a rollback may also raise what
is not an `Exception`. -/
inductive Ending
  | committed
  | commitFailed
  | rolledBack
  | rollbackFailed
  | rollbackInterrupted
deriving DecidableEq

/-- `broken` -/
def Ending.broken : Ending → Bool
  | .commitFailed | .rollbackFailed => true
  | _ => false

/-- A step: a new call, a step of the call with a number, or one of `close`. -/
inductive Action
  | checkout
  | enter (call : ℕ) (timedOut : Bool)
  | connected (call : ℕ)
  | connectFailed (call : ℕ)
  | dropSlot (call : ℕ)
  | pinged (call : ℕ) (ok : Bool)
  | readClosed (call : ℕ)
  | release (call : ℕ) (ending : Ending)
  | discarded (call : ℕ) (timedOut : Bool)
  | connectionClosed (call : ℕ)
  | close
  | idleClosed

/-- The call moves on. -/
def State.move (s : State) (call : ℕ) (phase : Phase) : State :=
  { s with calls := s.calls.set call phase }

/-- The phase after `_discard`. -/
def Discard.next (timedOut : Bool) : Discard → Phase
  | .unhealthy => if timedOut then .ended else .entering
  | .poolClosed | .broken => .ended

/-- The section of `_checkout` that takes a slot. -/
def State.enter (maxSize : ℕ) (s : State) (call : ℕ) (timedOut : Bool) : State :=
  if s.closed then s.move call .ended
  else match s.idle.getLast? with
    | some c => { s.move call (.pinging c) with idle := s.idle.dropLast }
    | none =>
      if s.total < maxSize then { s.move call .opening with total := s.total + 1 }
      else if timedOut then s.move call .ended
      else s.move call .entering

/-- `_release` -/
def State.release (s : State) (call connection : ℕ) (ending : Ending) : State :=
  if ending.broken then s.move call (.discarding connection .broken)
  else if s.closed then { s.move call (.closing connection) with total := s.total - 1 }
  else { s.move call .ended with idle := s.idle ++ [connection] }

/-- One step of a call in a phase. -/
def State.advance (maxSize : ℕ) (s : State) : Action → Phase → Option State
  | .enter call timedOut, .entering => some (s.enter maxSize call timedOut)
  | .connected call, .opening =>
    some { s.move call (.pinging s.opened) with opened := s.opened + 1 }
  | .connectFailed call, .opening => some (s.move call .failed)
  | .dropSlot call, .failed => some { s.move call .ended with total := s.total - 1 }
  | .pinged call ok, .pinging c =>
    some (s.move call (if ok then .healthy c else .discarding c .unhealthy))
  | .readClosed call, .healthy c =>
    some (s.move call (if s.closed then .discarding c .poolClosed else .held c))
  | .release call ending, .held c => some (s.release call c ending)
  | .discarded call timedOut, .discarding _ why =>
    some { s.move call (why.next timedOut) with total := s.total - 1 }
  | .connectionClosed call, .closing _ => some (s.move call .ended)
  | _, _ => none

/-- The call that a step is of. -/
def Action.call : Action → Option ℕ
  | .enter call _ | .connected call | .connectFailed call | .dropSlot call | .pinged call _
  | .readClosed call | .release call _ | .discarded call _ | .connectionClosed call => some call
  | .checkout | .close | .idleClosed => none

/-- A step of the pool; `none` where it is not possible. -/
def step (maxSize : ℕ) (s : State) (a : Action) : Option State :=
  match a with
  | .checkout => some { s with calls := s.calls ++ [.entering] }
  | .close =>
    if s.closed then some s
    else some { s with
      closed := true, closing := s.closing ++ s.idle, idle := [], total := s.total - s.idle.length }
  | .idleClosed => some { s with closing := s.closing.tail }
  | a => (a.call.bind (s.calls[·]?)).bind (s.advance maxSize a)

/-- A sequence of steps. -/
def run (maxSize : ℕ) : State → List Action → Option State
  | s, [] => some s
  | s, a :: actions => (step maxSize s a).bind (run maxSize · actions)

/-! ## Slots and connections -/

/-- A connection of the pool is checked out: it is being pinged, is with the caller, or is on its
way out. -/
def Phase.checkedOut : Phase → Bool
  | .pinging _ | .healthy _ | .held _ | .discarding _ _ => true
  | _ => false

/-- A connection is being opened. -/
def Phase.beingOpened : Phase → Bool
  | .opening | .failed => true
  | _ => false

/-- The connection that the call has. -/
def Phase.connection : Phase → Option ℕ
  | .pinging c | .healthy c | .held c | .discarding c _ | .closing c => some c
  | _ => none

/-- The call has the connection. -/
def Phase.has (c : ℕ) (phase : Phase) : Bool := phase.connection == some c

/-- How many idle connections, calls and connections of `close` a connection is. -/
def State.holders (s : State) (c : ℕ) : ℕ :=
  s.idle.count c + s.calls.countP (Phase.has c) + s.closing.count c

/-- What every state keeps: the counter counts, within the bound, and a connection is in one place
and was opened. -/
structure Counted (maxSize : ℕ) (s : State) : Prop where
  total : s.total =
    s.idle.length + s.calls.countP Phase.checkedOut + s.calls.countP Phase.beingOpened
  bounded : s.total ≤ maxSize
  single : ∀ c, s.holders c ≤ 1
  opened : ∀ c, 0 < s.holders c → c < s.opened

theorem init_counted {minSize maxSize : ℕ} (h : minSize ≤ maxSize) :
    Counted maxSize (.init minSize) where
  total := by simp [State.init]
  bounded := by simpa [State.init] using h
  single c := by
    have := List.nodup_iff_count_le_one.1 (List.nodup_range (n := minSize)) c
    simpa [State.holders, State.init] using this
  opened c hc := by
    have hmem : c ∈ List.range minSize :=
      List.count_pos_iff.1 (by simpa [State.holders, State.init] using hc)
    exact List.mem_range.1 hmem

/-- The slots that a call in the phase has: one or none. -/
def Phase.slots (phase : Phase) : ℕ := tally phase.checkedOut + tally phase.beingOpened

section
variable {maxSize : ℕ} {s s' : State} {call : ℕ} {x y : Phase}

theorem countP_move (hcall : s.calls[call]? = some x) (hcalls : s'.calls = s.calls.set call y)
    (p : Phase → Bool) :
    s'.calls.countP p + tally (p x) = s.calls.countP p + tally (p y) := by
  rw [hcalls]
  exact countP_set hcall p y

/-- A call moves on, and the idle connections and the counter change with its slot; the connection
it lets go of may turn idle. -/
theorem Counted.move (h : Counted maxSize s) (hcall : s.calls[call]? = some x)
    (hcalls : s'.calls = s.calls.set call y)
    (htotal : s'.total + s.idle.length + x.slots = s.total + s'.idle.length + y.slots)
    (hbounded : s'.total ≤ maxSize)
    (hholders : ∀ c, s'.idle.count c + s'.closing.count c + tally (y.has c) ≤
      s.idle.count c + s.closing.count c + tally (x.has c))
    (hopened : s'.opened = s.opened) : Counted maxSize s' := by
  have hle : ∀ c, s'.holders c ≤ s.holders c := by
    intro c
    have hcount := countP_move hcall hcalls (Phase.has c)
    have := hholders c
    rw [State.holders, State.holders]
    omega
  refine ⟨?_, hbounded, fun c => (hle c).trans (h.single c), fun c hc => ?_⟩
  · have hout := countP_move hcall hcalls Phase.checkedOut
    have hopening := countP_move hcall hcalls Phase.beingOpened
    have := h.total
    rw [Phase.slots, Phase.slots] at htotal
    omega
  · rw [hopened]
    exact h.opened c (Nat.lt_of_lt_of_le hc (hle c))

/-- The call moves between phases with the same slot, and with no other connection. -/
theorem Counted.stay (h : Counted maxSize s) (hcall : s.calls[call]? = some x)
    (hslots : x.slots = y.slots) (hhas : ∀ c, tally (y.has c) ≤ tally (x.has c)) :
    Counted maxSize (s.move call y) :=
  h.move hcall rfl (by simp only [State.move]; omega) h.bounded
    (fun c => Nat.add_le_add_left (hhas c) _) rfl

/-- The call gives its slot back. -/
theorem Counted.drop (h : Counted maxSize s) (hcall : s.calls[call]? = some x)
    (hslots : x.slots = y.slots + 1) (hhas : ∀ c, tally (y.has c) ≤ tally (x.has c)) :
    Counted maxSize { s.move call y with total := s.total - 1 } := by
  have hbounded := h.bounded
  exact h.move hcall rfl (by simp only [State.move]; omega) (by simp only; omega)
    (fun c => Nat.add_le_add_left (hhas c) _) rfl

theorem enter_counted (h : Counted maxSize s) (hcall : s.calls[call]? = some .entering)
    (timedOut : Bool) : Counted maxSize (s.enter maxSize call timedOut) := by
  rw [State.enter]
  split
  · exact h.stay hcall rfl fun c => le_refl _
  split
  next c hlast =>
    have hidle : s.idle = s.idle.dropLast ++ [c] := by
      obtain ⟨earlier, hearlier⟩ := List.getLast?_eq_some_iff.1 hlast
      rw [hearlier, List.dropLast_concat]
    have hlength : s.idle.length = s.idle.dropLast.length + 1 := by
      conv_lhs => rw [hidle, List.length_append, List.length_singleton]
    refine h.move hcall rfl ?_ h.bounded (fun d => ?_) rfl
    · simp only [State.move, Phase.slots, Phase.checkedOut, Phase.beingOpened, tally_true,
        tally_false]
      omega
    · have hcount : s.idle.count d = s.idle.dropLast.count d + tally (c == d) := by
        conv_lhs => rw [hidle, List.count_append, List.count_singleton]
        rfl
      have hhas : (Phase.pinging c).has d = (c == d) := rfl
      simp only [State.move, hhas]
      omega
  · split
    next hless =>
      refine h.move hcall rfl ?_ ?_ (fun c => le_refl _) rfl
      · simp only [State.move, Phase.slots, Phase.checkedOut, Phase.beingOpened, tally_true,
          tally_false]
        omega
      · simp only
        omega
    · split
      · exact h.stay hcall rfl fun c => le_refl _
      · exact h.stay hcall rfl fun c => le_refl _

theorem release_counted (h : Counted maxSize s) {c : ℕ} (hcall : s.calls[call]? = some (.held c))
    (ending : Ending) : Counted maxSize (s.release call c ending) := by
  rw [State.release]
  split
  · exact h.stay hcall rfl fun d => le_refl _
  split
  · exact h.drop hcall rfl fun d => le_refl _
  · refine h.move hcall rfl ?_ h.bounded (fun d => ?_) rfl
    · simp only [State.move, Phase.slots, Phase.checkedOut, Phase.beingOpened, tally_true,
        tally_false, List.length_append, List.length_singleton]
      omega
    · have hhas : (Phase.held c).has d = (c == d) := rfl
      have hcount : (s.idle ++ [c]).count d = s.idle.count d + tally (c == d) := by
        rw [List.count_append, List.count_singleton]
        rfl
      have hended : Phase.ended.has d = false := rfl
      simp only [State.move, hhas, hcount, hended, tally_false]
      omega

/-- A new connection has no holder yet. -/
theorem connected_counted (h : Counted maxSize s) (hcall : s.calls[call]? = some .opening) :
    Counted maxSize { s.move call (.pinging s.opened) with opened := s.opened + 1 } := by
  have hcount (p : Phase → Bool) := countP_set hcall p (.pinging s.opened)
  have hfresh : s.holders s.opened = 0 := by
    by_contra hne
    exact Nat.lt_irrefl _ (h.opened _ (Nat.pos_of_ne_zero hne))
  have hholders (c : ℕ) :
      State.holders { s.move call (.pinging s.opened) with opened := s.opened + 1 } c =
        s.holders c + tally (s.opened == c) := by
    have hhas : (Phase.pinging s.opened).has c = (s.opened == c) := rfl
    have hopening : Phase.opening.has c = false := rfl
    have := hcount (Phase.has c)
    rw [hhas, hopening, tally_false] at this
    simp only [State.holders, State.move]
    omega
  refine ⟨?_, h.bounded, fun c => ?_, fun c hc => ?_⟩
  · have hout := hcount Phase.checkedOut
    have hopening := hcount Phase.beingOpened
    have := h.total
    simp only [Phase.checkedOut, Phase.beingOpened, tally_true, tally_false] at hout hopening
    simp only [State.move]
    omega
  · rw [hholders]
    cases hc : s.opened == c with
    | false => exact h.single c
    | true =>
      obtain rfl := eq_of_beq hc
      rw [hfresh]
      decide
  · rw [hholders] at hc
    simp only
    cases heq : s.opened == c with
    | false =>
      rw [heq] at hc
      exact Nat.lt_succ_of_lt (h.opened c hc)
    | true =>
      obtain rfl := eq_of_beq heq
      exact Nat.lt_succ_self _

/-- One step of a call. -/
theorem advance_counted (h : Counted maxSize s) {a : Action} (ha : a.call = some call)
    (hcall : s.calls[call]? = some x) (hstep : s.advance maxSize a x = some s') :
    Counted maxSize s' := by
  cases a with
  | checkout => cases ha
  | close => cases ha
  | idleClosed => cases ha
  | enter i timedOut =>
    obtain rfl := Option.some.inj ha
    cases x <;> cases hstep
    exact enter_counted h hcall timedOut
  | connected i =>
    obtain rfl := Option.some.inj ha
    cases x <;> cases hstep
    exact connected_counted h hcall
  | connectFailed i =>
    obtain rfl := Option.some.inj ha
    cases x <;> cases hstep
    exact h.stay hcall rfl fun d => le_refl _
  | dropSlot i =>
    obtain rfl := Option.some.inj ha
    cases x <;> cases hstep
    exact h.drop hcall rfl fun d => le_refl _
  | pinged i ok =>
    obtain rfl := Option.some.inj ha
    cases x <;> cases hstep
    cases ok <;> exact h.stay hcall rfl fun d => le_refl _
  | readClosed i =>
    obtain rfl := Option.some.inj ha
    cases x <;> cases hstep
    cases s.closed <;> exact h.stay hcall rfl fun d => le_refl _
  | release i ending =>
    obtain rfl := Option.some.inj ha
    cases x <;> cases hstep
    exact release_counted h hcall ending
  | discarded i timedOut =>
    obtain rfl := Option.some.inj ha
    cases x <;> cases hstep
    rename_i c why
    refine h.drop hcall ?_ fun d => ?_
    · cases why <;> cases timedOut <;> rfl
    · cases why <;> cases timedOut <;> exact Nat.zero_le _
  | connectionClosed i =>
    obtain rfl := Option.some.inj ha
    cases x <;> cases hstep
    exact h.stay hcall rfl fun d => Nat.zero_le _

end

/-! ## Over every sequence of steps -/

variable {maxSize minSize : ℕ} {s s' : State}

/-- The steps of a call are those of its phase. -/
theorem step_eq_advance {a : Action} (ha : a.call = some call) :
    step maxSize s a = s.calls[call]?.bind (s.advance maxSize a) := by
  have hstep : step maxSize s a = (a.call.bind (s.calls[·]?)).bind (s.advance maxSize a) := by
    cases a with
    | checkout => cases ha
    | close => cases ha
    | idleClosed => cases ha
    | enter i timedOut => rfl
    | connected i => rfl
    | connectFailed i => rfl
    | dropSlot i => rfl
    | pinged i ok => rfl
    | readClosed i => rfl
    | release i ending => rfl
    | discarded i timedOut => rfl
    | connectionClosed i => rfl
  rw [hstep, ha, Option.bind_some]

/-- A step of a call, inverted. -/
theorem step_call {a : Action} (ha : a.call = some call) (h : step maxSize s a = some s') :
    ∃ x, s.calls[call]? = some x ∧ s.advance maxSize a x = some s' :=
  Option.bind_eq_some_iff.1 (step_eq_advance ha ▸ h)

/-- A step of the pool is a new call, a step of `close`, or a step of a call. -/
theorem step_cases {a : Action} (h : step maxSize s a = some s') :
    (s' = { s with calls := s.calls ++ [.entering] }) ∨
    (a = .close ∧ s.closed = true ∧ s' = s) ∨
    (a = .close ∧ s.closed = false ∧ s' = { s with
      closed := true, closing := s.closing ++ s.idle, idle := []
      total := s.total - s.idle.length }) ∨
    (s' = { s with closing := s.closing.tail }) ∨
    (∃ call x, a.call = some call ∧ s.calls[call]? = some x ∧ s.advance maxSize a x = some s') := by
  cases ha : a.call with
  | some call =>
    obtain ⟨x, hx, hadvance⟩ := step_call ha h
    exact .inr (.inr (.inr (.inr ⟨call, x, rfl, hx, hadvance⟩)))
  | none =>
    cases a with
    | checkout => exact .inl (Option.some.inj h).symm
    | close =>
      rw [step] at h
      cases hclosed : s.closed with
      | true =>
        rw [hclosed, if_pos rfl] at h
        exact .inr (.inl ⟨rfl, rfl, (Option.some.inj h).symm⟩)
      | false =>
        rw [hclosed, if_neg Bool.false_ne_true] at h
        exact .inr (.inr (.inl ⟨rfl, rfl, (Option.some.inj h).symm⟩))
    | idleClosed => exact .inr (.inr (.inr (.inl (Option.some.inj h).symm)))
    | enter call timedOut => cases ha
    | connected call => cases ha
    | connectFailed call => cases ha
    | dropSlot call => cases ha
    | pinged call ok => cases ha
    | readClosed call => cases ha
    | release call ending => cases ha
    | discarded call timedOut => cases ha
    | connectionClosed call => cases ha

theorem step_counted (h : Counted maxSize s) {a : Action} (hstep : step maxSize s a = some s') :
    Counted maxSize s' := by
  rcases step_cases hstep with rfl | ⟨-, -, rfl⟩ | ⟨-, -, rfl⟩ | rfl | ⟨call, x, ha, hx, hadvance⟩
  · refine ⟨?_, h.bounded, fun c => ?_, fun c hc => ?_⟩
    · have := h.total
      simpa [Phase.checkedOut, Phase.beingOpened] using this
    · simpa [State.holders, Phase.has, Phase.connection] using h.single c
    · exact h.opened c (by simpa [State.holders, Phase.has, Phase.connection] using hc)
  · exact h
  · have hholders (c : ℕ) : State.holders { s with
        closed := true, closing := s.closing ++ s.idle, idle := []
        total := s.total - s.idle.length } c = s.holders c := by
      simp only [State.holders, List.count_append, List.count_nil]
      omega
    refine ⟨?_, ?_, fun c => (hholders c).trans_le (h.single c), fun c hc => ?_⟩
    · have := h.total
      simp only [List.length_nil]
      omega
    · have := h.bounded
      simp only
      omega
    · exact h.opened c (hholders c ▸ hc)
  · have hle : ∀ c, State.holders { s with closing := s.closing.tail } c ≤ s.holders c := by
      intro c
      have := (List.tail_sublist s.closing).count_le c
      simp only [State.holders]
      omega
    exact ⟨h.total, h.bounded, fun c => (hle c).trans (h.single c),
      fun c hc => h.opened c (Nat.lt_of_lt_of_le hc (hle c))⟩
  · exact advance_counted h ha hx hadvance

theorem run_counted (h : Counted maxSize s) {actions : List Action}
    (hrun : run maxSize s actions = some s') : Counted maxSize s' := by
  induction actions generalizing s with
  | nil =>
    obtain rfl := Option.some.inj hrun
    exact h
  | cons a actions ih =>
    obtain ⟨s₁, hstep, hrest⟩ := Option.bind_eq_some_iff.1 hrun
    exact ih (step_counted h hstep) hrest

/-- The pool is closed, and the calls from a number on have no connection. -/
structure Refuses (first : ℕ) (s : State) : Prop where
  closed : s.closed = true
  waiting : ∀ call phase, first ≤ call → s.calls[call]? = some phase →
    phase = .entering ∨ phase = .ended

theorem Refuses.move {first call : ℕ} (h : Refuses first s) {y : Phase}
    (hclosed : s'.closed = s.closed) (hcalls : s'.calls = s.calls.set call y)
    (hy : first ≤ call → y = .entering ∨ y = .ended) : Refuses first s' := by
  refine ⟨hclosed.trans h.closed, fun i phase hi hphase => ?_⟩
  rw [hcalls, List.getElem?_set] at hphase
  split at hphase
  next heq =>
    subst heq
    split at hphase
    · obtain rfl := Option.some.inj hphase
      exact hy hi
    · cases hphase
  · exact h.waiting i phase hi hphase

/-- A call that starts on a closed pool only ends. -/
theorem advance_refuses {first call : ℕ} (h : Refuses first s) {a : Action} {x : Phase}
    (ha : a.call = some call) (hcall : s.calls[call]? = some x)
    (hstep : s.advance maxSize a x = some s') : Refuses first s' := by
  have hx : first ≤ call → x = .entering ∨ x = .ended := fun hfirst => h.waiting call x hfirst hcall
  cases a with
  | checkout => cases ha
  | close => cases ha
  | idleClosed => cases ha
  | enter i timedOut =>
    obtain rfl := Option.some.inj ha
    cases x <;> cases hstep
    rw [State.enter, h.closed, if_pos rfl]
    exact h.move rfl rfl fun _ => .inr rfl
  | connected i =>
    obtain rfl := Option.some.inj ha
    cases x <;> cases hstep
    exact h.move rfl rfl fun hfirst => by simpa using hx hfirst
  | connectFailed i =>
    obtain rfl := Option.some.inj ha
    cases x <;> cases hstep
    exact h.move rfl rfl fun hfirst => by simpa using hx hfirst
  | dropSlot i =>
    obtain rfl := Option.some.inj ha
    cases x <;> cases hstep
    exact h.move rfl rfl fun _ => .inr rfl
  | pinged i ok =>
    obtain rfl := Option.some.inj ha
    cases x <;> cases hstep
    exact h.move rfl rfl fun hfirst => by simpa using hx hfirst
  | readClosed i =>
    obtain rfl := Option.some.inj ha
    cases x <;> cases hstep
    exact h.move rfl rfl fun hfirst => by simpa using hx hfirst
  | release i ending =>
    obtain rfl := Option.some.inj ha
    cases x <;> cases hstep
    rw [State.release, h.closed]
    split
    · exact h.move rfl rfl fun hfirst => by simpa using hx hfirst
    · exact h.move rfl rfl fun hfirst => by simpa using hx hfirst
  | discarded i timedOut =>
    obtain rfl := Option.some.inj ha
    cases x <;> cases hstep
    exact h.move rfl rfl fun hfirst => by simpa using hx hfirst
  | connectionClosed i =>
    obtain rfl := Option.some.inj ha
    cases x <;> cases hstep
    exact h.move rfl rfl fun _ => .inr rfl

theorem step_refuses {first : ℕ} (h : Refuses first s) {a : Action}
    (hstep : step maxSize s a = some s') : Refuses first s' := by
  rcases step_cases hstep with
    rfl | ⟨-, -, rfl⟩ | ⟨-, hopen, -⟩ | rfl | ⟨call, x, ha, hx, hadvance⟩
  · refine ⟨h.closed, fun call phase hfirst hphase => ?_⟩
    rw [List.getElem?_append] at hphase
    split at hphase
    · exact h.waiting call phase hfirst hphase
    · exact .inl (List.mem_singleton.1 (List.mem_of_getElem? hphase))
  · exact h
  · exact absurd (hopen.symm.trans h.closed) Bool.false_ne_true
  · exact ⟨h.closed, h.waiting⟩
  · exact advance_refuses h ha hx hadvance

theorem run_refuses {first : ℕ} (h : Refuses first s) {actions : List Action}
    (hrun : run maxSize s actions = some s') : Refuses first s' := by
  induction actions generalizing s with
  | nil =>
    obtain rfl := Option.some.inj hrun
    exact h
  | cons a actions ih =>
    obtain ⟨s₁, hstep, hrest⟩ := Option.bind_eq_some_iff.1 hrun
    exact ih (step_refuses h hstep) hrest

/-! ## The accounting -/

/-- A call on a failure path: its slot has still to be given back. -/
def Phase.failing : Phase → Bool
  | .failed | .discarding _ _ => true
  | _ => false

/-- A step with which a connect, a health check, a commit or a rollback fails, or after which the
call finds the pool closed. -/
def Action.fails (closed : Bool) : Action → Bool
  | .connectFailed _ => true
  | .pinged _ ok => !ok
  | .readClosed _ => closed
  | .release _ ending => ending.broken
  | _ => false

/-- The step that gives the slot of a failing call back. -/
def giveBack (call : ℕ) (timedOut : Bool) : Phase → Action
  | .failed => .dropSlot call
  | _ => .discarded call timedOut

/-- What holds of the pool in every state. -/
structure Accounted (maxSize : ℕ) (s : State) : Prop where
  /-- The counter is the number of idle and checked-out connections and of those being opened. -/
  total : s.total =
    s.idle.length + s.calls.countP Phase.checkedOut + s.calls.countP Phase.beingOpened
  bounded : s.total ≤ maxSize
  /-- No two calls have one connection. -/
  exclusive : ∀ (i j : ℕ) (x y : Phase) (c : ℕ), s.calls[i]? = some x → s.calls[j]? = some y →
    x.connection = some c → y.connection = some c → i = j
  /-- A connection that a call has is not idle. -/
  not_idle : ∀ (i : ℕ) (x : Phase) (c : ℕ), s.calls[i]? = some x → x.connection = some c → c ∉ s.idle
  idle_nodup : s.idle.Nodup
  /-- After a failure the call is on a failure path, with its one slot. -/
  fails : ∀ (a : Action) (s' : State), step maxSize s a = some s' → a.fails s.closed = true →
    ∃ i x, a.call = some i ∧ s'.calls[i]? = some x ∧ x.failing = true ∧ x.slots = 1
  /-- A failing call can give its slot back. -/
  can_give_back : ∀ (i : ℕ) (x : Phase) (timedOut : Bool), s.calls[i]? = some x →
    x.failing = true → ∃ s', step maxSize s (giveBack i timedOut x) = some s'
  /-- Whatever step a failing call takes, it gives its slot back and has none. -/
  gives_back : ∀ (i : ℕ) (x : Phase) (a : Action) (s' : State), s.calls[i]? = some x →
    x.failing = true → a.call = some i → step maxSize s a = some s' →
    s'.total = s.total - 1 ∧ ∃ y, s'.calls[i]? = some y ∧ y.slots = 0
  /-- When all calls are over, the counter is the number of idle connections. -/
  quiet : (∀ x ∈ s.calls, x = .ended) → s.total = s.idle.length
  /-- A checkout that starts after `close` never returns a connection. -/
  refused : s.closed = true → ∀ actions s', run maxSize s actions = some s' →
    ∀ call c, s.calls.length ≤ call → s'.calls[call]? ≠ some (.held c)

theorem Counted.holders_pos {i c : ℕ} {x : Phase} (hi : s.calls[i]? = some x)
    (hx : x.connection = some c) : 0 < s.calls.countP (Phase.has c) :=
  countP_pos_of_getElem? hi (by simp [Phase.has, hx])

theorem Discard.next_slots (why : Discard) (timedOut : Bool) : (why.next timedOut).slots = 0 := by
  cases why with
  | unhealthy => cases timedOut <;> rfl
  | poolClosed => rfl
  | broken => rfl

theorem step_fails {a : Action} (hstep : step maxSize s a = some s')
    (hfails : a.fails s.closed = true) :
    ∃ i x, a.call = some i ∧ s'.calls[i]? = some x ∧ x.failing = true ∧ x.slots = 1 := by
  have hset {i : ℕ} {x : Phase} (hi : s.calls[i]? = some x) (y : Phase) :
      (s.calls.set i y)[i]? = some y :=
    List.getElem?_set_self (List.getElem?_eq_some_iff.1 hi).1
  cases a with
  | checkout => cases hfails
  | close => cases hfails
  | idleClosed => cases hfails
  | enter i timedOut => cases hfails
  | connected i => cases hfails
  | dropSlot i => cases hfails
  | discarded i timedOut => cases hfails
  | connectionClosed i => cases hfails
  | connectFailed i =>
    obtain ⟨x, hi, hadvance⟩ := step_call rfl hstep
    cases x <;> cases hadvance
    exact ⟨i, .failed, rfl, hset hi _, rfl, rfl⟩
  | pinged i ok =>
    obtain ⟨x, hi, hadvance⟩ := step_call rfl hstep
    cases x <;> cases hadvance
    cases ok with
    | true => cases hfails
    | false => exact ⟨i, .discarding _ .unhealthy, rfl, hset hi _, rfl, rfl⟩
  | readClosed i =>
    obtain ⟨x, hi, hadvance⟩ := step_call rfl hstep
    cases x <;> cases hadvance
    rename_i c
    rw [if_pos (show s.closed = true from hfails)]
    exact ⟨i, .discarding c .poolClosed, rfl, hset hi _, rfl, rfl⟩
  | release i ending =>
    obtain ⟨x, hi, hadvance⟩ := step_call rfl hstep
    cases x <;> cases hadvance
    rename_i c
    rw [State.release, if_pos (show ending.broken = true from hfails)]
    exact ⟨i, .discarding c .broken, rfl, hset hi _, rfl, rfl⟩

theorem step_can_give_back {i : ℕ} (timedOut : Bool) (hi : s.calls[i]? = some x)
    (hx : x.failing = true) : ∃ s', step maxSize s (giveBack i timedOut x) = some s' := by
  cases x with
  | failed => exact ⟨_, (step_eq_advance rfl).trans (by rw [hi]; rfl)⟩
  | discarding c why => exact ⟨_, (step_eq_advance rfl).trans (by rw [hi]; rfl)⟩
  | entering => cases hx
  | opening => cases hx
  | pinging c => cases hx
  | healthy c => cases hx
  | held c => cases hx
  | closing c => cases hx
  | ended => cases hx

theorem step_gives_back {i : ℕ} {a : Action} (hi : s.calls[i]? = some x) (hx : x.failing = true)
    (ha : a.call = some i) (hstep : step maxSize s a = some s') :
    s'.total = s.total - 1 ∧ ∃ y, s'.calls[i]? = some y ∧ y.slots = 0 := by
  have hset (y : Phase) : (s.calls.set i y)[i]? = some y :=
    List.getElem?_set_self (List.getElem?_eq_some_iff.1 hi).1
  rw [step_eq_advance ha, hi, Option.bind_some] at hstep
  cases x with
  | failed =>
    cases a <;> cases hstep
    obtain rfl := Option.some.inj ha
    exact ⟨rfl, .ended, hset _, rfl⟩
  | discarding c why =>
    cases a <;> cases hstep
    obtain rfl := Option.some.inj ha
    exact ⟨rfl, _, hset _, Discard.next_slots why _⟩
  | entering => cases hx
  | opening => cases hx
  | pinging c => cases hx
  | healthy c => cases hx
  | held c => cases hx
  | closing c => cases hx
  | ended => cases hx

/-- In every state that a pool reaches, its connections are accounted for. -/
theorem connection_pool_accounted (h : minSize ≤ maxSize) {actions : List Action}
    (hrun : run maxSize (.init minSize) actions = some s) : Accounted maxSize s := by
  have hcounted := run_counted (init_counted h) hrun
  refine ⟨hcounted.total, hcounted.bounded, fun i j x y c hi hj hx hy => ?_,
    fun i x c hi hx hidle => ?_, ?_, fun a s' hstep hfails => step_fails hstep hfails,
    fun i x timedOut hi hx => step_can_give_back timedOut hi hx,
    fun i x a s' hi hx ha hstep => step_gives_back hi hx ha hstep, fun hended => ?_, fun hclosed actions s' hrun' call c hcall hheld => ?_⟩
  · have hone : s.calls.countP (Phase.has c) ≤ 1 := by
      have := hcounted.single c
      rw [State.holders] at this
      omega
    exact eq_of_countP_le_one hone hi (by simp [Phase.has, hx]) hj (by simp [Phase.has, hy])
  · have hone := hcounted.single c
    have hpos := Counted.holders_pos hi hx
    have hidle' := List.count_pos_iff.2 hidle
    rw [State.holders] at hone
    omega
  · rw [List.nodup_iff_count_le_one]
    intro c
    have := hcounted.single c
    rw [State.holders] at this
    omega
  · have hzero (p : Phase → Bool) (hp : p .ended = false) : s.calls.countP p = 0 := by
      rw [List.countP_eq_zero]
      intro x hx
      rw [hended x hx, hp]
      exact Bool.false_ne_true
    have := hcounted.total
    rw [hzero _ rfl, hzero _ rfl] at this
    simpa using this
  · have hrefuses : Refuses s.calls.length s := by
      refine ⟨hclosed, fun i phase hi hphase => ?_⟩
      rw [List.getElem?_eq_none hi] at hphase
      cases hphase
    rcases (run_refuses hrefuses hrun').waiting call _ hcall hheld with hphase | hphase
    · cases hphase
    · cases hphase

/-- Two calls on a pool of one connection: the second waits, and enters when the first has found its
connection broken. -/
theorem connection_pool_accounted_broken :
    ∃ s, run 1 (.init 1) [.checkout, .checkout, .enter 0 false, .pinged 0 true, .readClosed 0,
      .enter 1 false, .release 0 .commitFailed, .discarded 0 false, .enter 1 false] = some s ∧
      Accounted 1 s :=
  ⟨_, rfl, connection_pool_accounted (le_refl 1)
    (show run 1 (.init 1) [.checkout, .checkout, .enter 0 false, .pinged 0 true, .readClosed 0,
      .enter 1 false, .release 0 .commitFailed, .discarded 0 false, .enter 1 false] = _ from rfl)⟩

end AgencyRuntime.Pool
