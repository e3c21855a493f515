import AgencyRuntime.Orchestrator.Alike

/-!
# Inline execution

`start` (orchestrator.py) creates a run and advances it until it is neither queued nor running.
`reference` is that loop one advance at a time, with a memory that takes everything. A run that
follows the reference (`Tracks`) goes on following it when it is advanced, leased, stored and read
back; so does the run of `start`, which stops where the reference stops.
-/

namespace AgencyRuntime

open Effects

namespace Orchestrator

/-- `status in {QUEUED, RUNNING}` -/
def isExecutable (status : RunStatus) : Bool := status = .queued || status = .running

section
variable (A : Agency)

/-- The loop of `start`; `none` when the fuel runs out. Every advance has its own reading. -/
def advanceAll : Nat → (Nat → Reading) → ExecutionRun → Option (Except Exn ExecutionRun)
  | 0, _, run => if isExecutable run.status then none else some (.ok run)
  | fuel + 1, R, run =>
    if isExecutable run.status then
      match Call.advance.perform A (R 0) run with
      | (.ok (), run') => advanceAll fuel (fun k => R (k + 1)) run'
      | (.error e, _) => some (.error e)
    else some (.ok run)

/-- `start`, in an orchestrator that does not have the run; the first reading is that of `create`. -/
def start (fuel : Nat) (R : Nat → Reading) (brief : MissionBrief) :
    Option (Except Exn ExecutionRun) :=
  match A.interpreter.stableId "run" [brief.toJson] 16 with
  | .ok runId =>
    advanceAll A fuel (fun k => R (k + 1)) (newRun runId brief false ((R 0).clock 0))
  | .error e => some (.error e)

/-- One round of the loop, with one reading; `none` when it raises. -/
def advanceOnce (R : Reading) (run : ExecutionRun) : Option ExecutionRun :=
  if isExecutable run.status then
    match Call.advance.perform A R run with
    | (.ok (), run') => some run'
    | (.error _, _) => none
  else some run

/-- What is left of the loop after some rounds. -/
def reference (R : Reading) (run : ExecutionRun) : Nat → Option ExecutionRun
  | 0 => some run
  | k + 1 => (reference R run k).bind (advanceOnce A R)

end

/-- Tools with a memory that takes everything, at a standing clock. -/
def quiet (tools : SandboxToolset) : Reading := ⟨tools, fun _ => .ok (), fun _ => []⟩

/-- A status beside the one of the reference. -/
def SameStage (status other : RunStatus) : Prop :=
  status = other ∨ isExecutable status = true ∧ isExecutable other = true

theorem SameStage.executable {status other : RunStatus} (h : SameStage status other) :
    isExecutable status = isExecutable other := by
  rcases h with rfl | ⟨h, h'⟩
  · rfl
  · rw [h, h']

theorem isExecutable_iff {status : RunStatus} :
    isExecutable status = true ↔ status = .queued ∨ status = .running := by
  simp [isExecutable]

variable {I : Interpreter} {T : TextLibrary} {F : Floats} {tools : SandboxToolset}
variable {brief : MissionBrief} {runId : Str}

/-- The run that `start` creates, as the reference begins. -/
def reference₀ (runId : Str) (brief : MissionBrief) : ExecutionRun := newRun runId brief false []

/-- The reference of a brief. -/
abbrev referenceOf (I : Interpreter) (T : TextLibrary) (tools : SandboxToolset) (runId : Str)
    (brief : MissionBrief) (k : Nat) : Option ExecutionRun :=
  reference (agency I T) (quiet tools) (reference₀ runId brief) k

/-- The run follows the reference, `k` rounds into it. -/
def TracksAt (I : Interpreter) (T : TextLibrary) (tools : SandboxToolset) (brief : MissionBrief)
    (runId : Str) (run : ExecutionRun) (k : Nat) : Prop :=
  ∃ other, referenceOf I T tools runId brief k = some other ∧ Alike T brief run other ∧
    SameStage run.status other.status

/-- Runs of one brief that are new are alike. -/
theorem newRun_alike (runId : Str) (brief : MissionBrief) (a b : Bool) (now now' : Str) :
    Alike T brief (newRun runId brief a now) (newRun runId brief b now') where
  runId := rfl
  brief := rfl
  otherBrief := rfl
  states := rfl
  artifacts := rfl
  evidence := rfl
  trace := rfl
  regular := ⟨nofun, nofun⟩

theorem tracksAt_new (asynchronous : Bool) (now : Str) :
    TracksAt I T tools brief runId (newRun runId brief asynchronous now) 0 := by
  refine ⟨_, rfl, newRun_alike runId brief _ _ _ _, .inr ⟨?_, rfl⟩⟩
  cases asynchronous <;> rfl

/-- An advance that returns is a round of the reference. -/
theorem TracksAt.advance {run : ExecutionRun} {k : Nat}
    (h : TracksAt I T tools brief runId run k) {R : Reading} (htools : R.tools = tools)
    (hrun : isExecutable run.status = true) {run' : ExecutionRun}
    (hadvance : Call.advance.perform (agency I T) R run = (.ok (), run')) :
    TracksAt I T tools brief runId run' (k + 1) := by
  obtain ⟨other, hother, halike, hstage⟩ := h
  have hexecutable : isExecutable other.status = true := hstage.executable ▸ hrun
  have hreturns : (Orchestrator.advance (agency I T) R ⟨run, R.clock, []⟩).1 = .ok () :=
    congrArg Prod.fst hadvance
  have hsame : (quiet tools).tools = R.tools := htools.symm
  obtain ⟨t, ht, hpaired⟩ := advance_follows hsame (fun _ => rfl)
    ⟨halike, isExecutable_iff.1 hrun, isExecutable_iff.1 hexecutable⟩ (Prod.ext hreturns rfl)
  have hrun' : (Orchestrator.advance (agency I T) R ⟨run, R.clock, []⟩).2.run = run' :=
    congrArg Prod.snd hadvance
  have hperform : Call.advance.perform (agency I T) (quiet tools) other = (.ok (), t.run) :=
    congrArg (fun p : Except Exn Unit × Session => (p.1, p.2.run)) ht
  refine ⟨t.run, ?_, hrun' ▸ hpaired.alike, .inl (hrun' ▸ hpaired.status)⟩
  simp only [referenceOf, reference] at hother ⊢
  rw [hother, Option.bind_some, advanceOnce, if_pos hexecutable, hperform]

/-- The reference stays where it has stopped. -/
theorem reference_stopped {A : Agency} {R : Reading} {run other : ExecutionRun} {k : Nat}
    (h : reference A R run k = some other) (hstopped : isExecutable other.status = false)
    (j : Nat) : reference A R run (k + j) = some other := by
  induction j with
  | zero => exact h
  | succ j ih =>
    rw [← Nat.add_assoc, reference, ih, Option.bind_some, advanceOnce, hstopped]
    rfl

/-- The reference stops at one run. -/
theorem reference_unique {A : Agency} {R : Reading} {run other other' : ExecutionRun} {k k' : Nat}
    (h : reference A R run k = some other) (hstopped : isExecutable other.status = false)
    (h' : reference A R run k' = some other') (hstopped' : isExecutable other'.status = false) :
    other = other' := by
  have hk := reference_stopped h hstopped k'
  have hk' := reference_stopped h' hstopped' k
  rw [Nat.add_comm k' k, hk] at hk'
  exact Option.some.inj hk'

/-- What the loop returns follows the reference to its end. -/
theorem TracksAt.advanceAll {fuel : Nat} {R : Nat → Reading} {run inline : ExecutionRun} {k : Nat}
    (h : TracksAt I T tools brief runId run k) (htools : ∀ k, (R k).tools = tools)
    (hall : Orchestrator.advanceAll (agency I T) fuel R run = some (.ok inline)) :
    isExecutable inline.status = false ∧ ∃ j, TracksAt I T tools brief runId inline j := by
  induction fuel generalizing R run k with
  | zero =>
    unfold Orchestrator.advanceAll at hall
    split at hall
    · cases hall
    · next hstopped =>
      cases hall
      exact ⟨Bool.eq_false_iff.2 hstopped, k, h⟩
  | succ fuel ih =>
    unfold Orchestrator.advanceAll at hall
    split at hall
    · next hrun =>
      split at hall
      · next run' hadvance =>
        exact ih (h.advance (htools 0) hrun hadvance) (fun k => htools (k + 1)) hall
      · cases hall
    · next hstopped =>
      cases hall
      exact ⟨Bool.eq_false_iff.2 hstopped, k, h⟩

/-- What the reference has reached it passed through. -/
theorem reference_before {A : Agency} {R : Reading} {run final : ExecutionRun} {k j : Nat}
    (h : reference A R run (k + j) = some final) : ∃ other, reference A R run k = some other := by
  induction j generalizing final with
  | zero => exact ⟨final, h⟩
  | succ j ih =>
    rw [← Nat.add_assoc, reference] at h
    obtain ⟨_, h, -⟩ := Option.bind_eq_some_iff.1 h
    exact ih h

/-- A round of the reference is an advance of every run like it, when the memory takes what the
station remembers. -/
theorem advance_of_reference {run other other' : ExecutionRun} {R : Reading}
    (h : Alike T brief other run) (hstage : SameStage run.status other.status)
    (htools : R.tools = tools) (hmemory : ∀ o, R.memory o = .ok ())
    (hrun : isExecutable run.status = true)
    (hround : advanceOnce (agency I T) (quiet tools) other = some other') :
    ∃ run', Call.advance.perform (agency I T) R run = (.ok (), run') ∧
      Alike T brief other' run' ∧ run'.status = other'.status := by
  have hexecutable : isExecutable other.status = true := hstage.executable ▸ hrun
  rw [advanceOnce, if_pos hexecutable] at hround
  split at hround
  · next run₁ hperform =>
    cases hround
    have hreturns : (Orchestrator.advance (agency I T) (quiet tools)
        ⟨other, (quiet tools).clock, []⟩).1 = .ok () := congrArg Prod.fst hperform
    have hother' : (Orchestrator.advance (agency I T) (quiet tools)
        ⟨other, (quiet tools).clock, []⟩).2.run = other' := congrArg Prod.snd hperform
    have hsame : R.tools = (quiet tools).tools := htools
    obtain ⟨t, ht, hpaired⟩ := advance_follows hsame hmemory
      ⟨h, isExecutable_iff.1 hexecutable, isExecutable_iff.1 hrun⟩ (Prod.ext hreturns rfl)
    refine ⟨t.run, ?_, hother' ▸ hpaired.alike, hother' ▸ hpaired.status.symm⟩
    exact congrArg (fun p : Except Exn Unit × Session => (p.1, p.2.run)) ht
  · cases hround

/-- The loop returns once the reference stops. -/
theorem advanceAll_returns {rounds k : Nat} {run other final : ExecutionRun} {R : Nat → Reading}
    (hother : referenceOf I T tools runId brief k = some other)
    (hfinal : referenceOf I T tools runId brief (k + rounds) = some final)
    (hstopped : isExecutable final.status = false) (h : Alike T brief other run)
    (hstage : SameStage run.status other.status) (htools : ∀ k, (R k).tools = tools)
    (hmemory : ∀ k o, (R k).memory o = .ok ()) {fuel : Nat} (hfuel : rounds ≤ fuel) :
    ∃ inline, advanceAll (agency I T) fuel R run = some (.ok inline) := by
  induction rounds generalizing k run other R fuel with
  | zero =>
    obtain rfl := Option.some.inj (hother.symm.trans hfinal)
    have hrun : isExecutable run.status = false := hstage.executable.trans hstopped
    cases fuel <;> exact ⟨run, by rw [advanceAll, hrun]; rfl⟩
  | succ rounds ih =>
    obtain ⟨fuel, rfl⟩ : ∃ n, fuel = n + 1 := ⟨fuel - 1, by omega⟩
    cases hrun : isExecutable run.status with
    | false => exact ⟨run, by rw [advanceAll, hrun]; rfl⟩
    | true =>
      have hplace : k + (rounds + 1) = k + 1 + rounds := by omega
      rw [hplace] at hfinal
      obtain ⟨other', hother'⟩ := reference_before hfinal
      have hround : advanceOnce (agency I T) (quiet tools) other = some other' := by
        have hbind : (referenceOf I T tools runId brief k).bind _ = some other' := hother'
        rwa [hother, Option.bind_some] at hbind
      obtain ⟨run', hadvance, halike, hstatus⟩ :=
        advance_of_reference h hstage (htools 0) (hmemory 0) hrun hround
      obtain ⟨inline, hinline⟩ := ih hother' hfinal halike (.inl hstatus)
        (fun k => htools (k + 1)) (fun k => hmemory (k + 1)) (Nat.le_of_succ_le_succ hfuel)
      exact ⟨inline, by rw [advanceAll, if_pos hrun, hadvance]; exact hinline⟩

/-- The loop keeps `Kept`. -/
theorem advanceAll_kept {fuel : Nat} {R : Nat → Reading} {run inline : ExecutionRun}
    (h : Kept F I.toPlatform run) (htools : ∀ k, (R k).tools.Valued F)
    (hall : advanceAll (agency I T) fuel R run = some (.ok inline)) : Kept F I.toPlatform inline := by
  induction fuel generalizing R run with
  | zero =>
    unfold advanceAll at hall
    split at hall <;> cases hall
    exact h
  | succ fuel ih =>
    unfold advanceAll at hall
    split at hall
    · split at hall
      · next run' hadvance =>
        have hkept := perform_kept (T := T) h (htools 0) .advance
        rw [hadvance] at hkept
        exact ih hkept (fun k => htools (k + 1)) hall
      · cases hall
    · cases hall
      exact h

/-! ## The outcome of a run -/

/-- The same outcome, up to timestamps. -/
structure SameOutcome (run inline : ExecutionRun) : Prop where
  runId : run.runId = inline.runId
  status : run.status = inline.status
  artifacts : (run.artifacts.map fun a => canonicalJson a.toJson) =
    inline.artifacts.map fun a => canonicalJson a.toJson
  evidence : (run.evidence.map fun e => canonicalJson (.obj e.fields)) =
    inline.evidence.map fun e => canonicalJson (.obj e.fields)
  states : run.agentStates = inline.agentStates
  trace : run.trace.map TraceEvent.untimed = inline.trace.map TraceEvent.untimed

/-- Evidence that is read back alike has the same canonical JSON. -/
theorem canonicalJson_evidence {e e' : ToolEvidence} (h : e.Valued F) (h' : e'.Valued F)
    (hsame : e.reloaded = e'.reloaded) :
    canonicalJson (.obj e.fields) = canonicalJson (.obj e'.fields) := by
  rw [← canonicalJson_normal h.fields, ← e.normal_reloaded, hsame, e'.normal_reloaded,
    canonicalJson_normal h'.fields]

/-- Artifacts that are read back alike have the same canonical JSON. -/
theorem canonicalJson_artifact {a a' : Artifact} (h : a.Valued F) (h' : a'.Valued F)
    (hsame : a.reloaded = a'.reloaded) : canonicalJson a.toJson = canonicalJson a'.toJson := by
  rw [← h.canonicalJson, hsame, h'.canonicalJson]

/-- Two lists with the same images under one map have those under another that it determines. -/
theorem map_congr_of_map {α β γ : Type} {f : α → β} {g : α → γ} {xs ys : List α}
    (h : xs.map f = ys.map f) (hg : ∀ x ∈ xs, ∀ y ∈ ys, f x = f y → g x = g y) :
    xs.map g = ys.map g := by
  induction xs generalizing ys with
  | nil =>
    obtain rfl := List.map_eq_nil_iff.1 h.symm
    rfl
  | cons x xs ih =>
    obtain ⟨y, ys', rfl, hy, hys⟩ := List.map_eq_cons_iff.1 h.symm
    rw [List.map_cons, List.map_cons, hg x List.mem_cons_self y List.mem_cons_self hy.symm,
      ih hys.symm fun x hx y hy => hg x (List.mem_cons_of_mem _ hx) y (List.mem_cons_of_mem _ hy)]

/-- Two runs that follow the reference to its end have the same outcome. -/
theorem TracksAt.sameOutcome {run inline : ExecutionRun} {j k : Nat}
    (h : TracksAt I T tools brief runId run j) (h' : TracksAt I T tools brief runId inline k)
    (hrun : isExecutable run.status = false) (hinline : isExecutable inline.status = false)
    (hkept : Kept F I.toPlatform run) (hkept' : Kept F I.toPlatform inline) :
    SameOutcome run inline := by
  obtain ⟨other, hother, halike, hstage⟩ := h
  obtain ⟨other', hother', halike', hstage'⟩ := h'
  have hstopped : isExecutable other.status = false := hstage.executable ▸ hrun
  have hstopped' : isExecutable other'.status = false := hstage'.executable ▸ hinline
  obtain rfl := reference_unique hother hstopped hother' hstopped'
  have hstatus {status : RunStatus} (h : SameStage status other.status) : status = other.status := by
    rcases h with h | ⟨_, h⟩
    · exact h
    · rw [hstopped] at h
      cases h
  exact
    { runId := halike.runId.trans halike'.runId.symm
      status := (hstatus hstage).trans (hstatus hstage').symm
      artifacts := map_congr_of_map (halike.artifacts.trans halike'.artifacts.symm)
        fun a ha b hb => canonicalJson_artifact (hkept.artifacts a ha) (hkept'.artifacts b hb)
      evidence := map_congr_of_map (halike.evidence.trans halike'.evidence.symm)
        fun a ha b hb => canonicalJson_evidence (hkept.evidence a ha) (hkept'.evidence b hb)
      states := halike.states.trans halike'.states.symm
      trace := halike.trace.trans halike'.trace.symm }

/-- What `start` makes of a brief, beside a run that followed the reference to its end. -/
theorem TracksAt.agrees_start {run : ExecutionRun} {k : Nat}
    (h : TracksAt I T tools brief runId run k) (hrun : isExecutable run.status = false)
    (hkept : Kept F I.toPlatform run) (hbrief : brief.Complete) (htools : tools.Valued F)
    (hid : I.stableId "run" [brief.toJson] 16 = .ok runId) {R : Nat → Reading}
    (hR : ∀ k, (R k).tools = tools) :
    ((∀ k o, (R k).memory o = .ok ()) → ∃ n, ∀ fuel, n ≤ fuel → ∃ inline,
      start (agency I T) fuel R brief = some (.ok inline)) ∧
    ∀ fuel inline, start (agency I T) fuel R brief = some (.ok inline) → SameOutcome run inline := by
  have hstart (fuel : Nat) : start (agency I T) fuel R brief =
      Orchestrator.advanceAll (agency I T) fuel (fun k => R (k + 1))
        (newRun runId brief false ((R 0).clock 0)) := by
    have hid : (agency I T).interpreter.stableId "run" [brief.toJson] 16 = .ok runId := hid
    rw [start, hid]
  have hnew : TracksAt I T tools brief runId (newRun runId brief false ((R 0).clock 0)) 0 :=
    tracksAt_new false _
  constructor
  · intro hmemory
    obtain ⟨final, hfinal, -, hstage⟩ := h
    have hstopped : isExecutable final.status = false := hstage.executable ▸ hrun
    refine ⟨k, fun fuel hfuel => ?_⟩
    rw [hstart]
    refine advanceAll_returns (k := 0) rfl ((Nat.zero_add k).symm ▸ hfinal) hstopped
      (newRun_alike runId brief false false [] ((R 0).clock 0)) (.inl rfl) (fun k => hR (k + 1))
      (fun k => hmemory (k + 1)) hfuel
  · intro fuel inline hinline
    rw [hstart] at hinline
    obtain ⟨hstopped, j, htracks⟩ := hnew.advanceAll (fun k => hR (k + 1)) hinline
    have hnewKept : Kept F I.toPlatform (newRun runId brief false ((R 0).clock 0)) :=
      ⟨hbrief, nofun, nofun, nofun⟩
    have hinlineKept := advanceAll_kept hnewKept (fun k => (hR (k + 1)).symm ▸ htools) hinline
    exact h.sameOutcome htracks hrun hstopped hkept hinlineKept

end Orchestrator

end AgencyRuntime
