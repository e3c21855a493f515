import AgencyRuntime.Isolation.Runs
import AgencyRuntime.Tenants.Stores

/-!
# Tenants do not interfere

The stores of the runtime share one database file, and requests of all tenants run over them in any
order. Every transaction is an isolated step of the tenant it is issued for, so what a tenant's
requests do and are answered, and the tenant's rows, are the same as if no other tenant's request
had run and whatever the rows of the others are (`tenants_isolated`). The one column that shows more
is the sequence number of an audit event, which counts the events of all tenants; events are here in
the order of these numbers.
-/

namespace AgencyRuntime

open Effects Py Tables

namespace Tenants

/-- The stores of the runtime. -/
structure Stores extends Reauthorize.Stores where
  ledger : Ledger.RunDatabase
  effects : EffectTable
  states : Social.StateTable
  media : Media.MediaTable

/-- The transactions of the stores. -/
inductive Access (F : Floats)
  | ledger (o : Ledger.Section F)
  | account (o : Reauthorize.Access)
  | upsertConnection (record : SocialConnectionRecord)
  | effect (o : ModelEffect.Statement)
  | createState (record : Social.SocialOAuthStateRecord) (faults : List (Option Exn))
  | consumeState (lookup : Social.StateLookup) (now : Datetime) (faults : List (Option Exn))
  | reserveMedia (record : PublicationMediaRecord) (content : Bytes) (faults : List (Option Exn))

/-- The answers of the transactions. -/
abbrev accesses (F : Floats) : Sig where
  Op := Access F
  Ans
    | .ledger o => (Ledger.sections F).Ans o
    | .account o => Reauthorize.accesses.Ans o
    | .upsertConnection _ => Unit
    | .effect o => ModelEffect.statements.Ans o
    | .createState .. => Except Exn Unit
    | .consumeState .. => Except Exn (Social.SocialOAuthState Str)
    | .reserveMedia .. => Except Exn PublicationMediaReservation

section
variable {F : Floats} (P : Platform) (d : Media.Delivery)

/-- The effect of each transaction. -/
def Access.run (o : Access F) (w : Stores) : (accesses F).Ans o × Stores :=
  match o with
  | .ledger o => ((o.run P w.ledger).1, { w with ledger := (o.run P w.ledger).2 })
  | .account o => ((o.run w.toStores).1, { w with toStores := (o.run w.toStores).2 })
  | .upsertConnection record =>
    ((), { w with toStores := Reauthorize.upsertConnection record w.toStores })
  | .effect o => ((o.run w.effects).1, { w with effects := (o.run w.effects).2 })
  | .createState record faults =>
    let r := (Social.Sqlite.createState record).commit ⟨w.states, faults⟩
    (r.1, { w with states := r.2 })
  | .consumeState lookup now faults =>
    let r := (Social.Sqlite.consumeState lookup now).commit ⟨w.states, faults⟩
    (r.1, { w with states := r.2 })
  | .reserveMedia record content faults =>
    let r := (Transaction.statement (Media.Sqlite.reserve P d record content)).commit
      ⟨w.media, faults⟩
    (r.1, { w with media := r.2 })

/-- The stores as a service. -/
def service : Service (accesses F) Stores Empty where
  run _ o w := some (o.run P d w)
  crash _ w := w
  env x _ := nomatch x

end

/-! ## The rows of a tenant -/

/-- The rows of a tenant. -/
@[ext] structure TenantRows where
  ledger : Ledger.LedgerRows
  connections : List SocialConnectionRecord
  intents : List SocialPublicationIntent
  effects : List ModelEffectIntent
  states : List (Social.SocialOAuthState Str)
  media : List MediaRow

/-- Every row tells its tenant. -/
structure Told (own : Str → Str) (w : Stores) : Prop where
  ledger : Ledger.Told own w.ledger
  connections : connectionOwner.Holds w.connections
  intents : (intentOwner own).Holds w.intents
  effects : (effectOwner own).Holds w.effects
  states : (Social.stateOwner own).Holds w.states
  media : (Media.mediaOwner own).Holds w.media

/-- The stores of the tenants. -/
def isolation (own : Str → Str) : Isolation Stores Str where
  View := TenantRows
  view x w := {
    ledger := (Ledger.isolation own).view x w.ledger
    connections := connectionOwner.part x w.connections
    intents := (intentOwner own).part x w.intents
    effects := (effectOwner own).part x w.effects
    states := (Social.stateOwner own).part x w.states
    media := (Media.mediaOwner own).part x w.media }
  Holds := Told own

section
variable {own : Str → Str} {x : Str} {w w' : Stores}

def ledgerPart (own : Str → Str) : Isolation.Part (isolation own) (Ledger.isolation own) where
  get := Stores.ledger
  set ledger w := { w with ledger }
  alike_get h := ⟨h.left.ledger, h.right.ledger, congrArg TenantRows.ledger h.view⟩
  alike_set h h' := ⟨{ h.left with ledger := h'.left }, { h.right with ledger := h'.right },
    congrArg₂ (fun (v : TenantRows) (l : Ledger.LedgerRows) => { v with ledger := l }) h.view h'.view⟩
  moves_set h h' := ⟨{ h with ledger := h'.holds }, fun y hy =>
    TenantRows.ext (h'.others y hy) rfl rfl rfl rfl rfl⟩

def connectionsPart (own : Str → Str) :
    Isolation.Part (isolation own) connectionOwner.isolation where
  get w := w.connections
  set connections w := { w with connections }
  alike_get h := ⟨h.left.connections, h.right.connections, congrArg TenantRows.connections h.view⟩
  alike_set h h' := ⟨{ h.left with connections := h'.left }, { h.right with connections := h'.right },
    congrArg₂ (fun (v : TenantRows) rows => { v with connections := rows }) h.view h'.view⟩
  moves_set h h' := ⟨{ h with connections := h'.holds }, fun y hy =>
    TenantRows.ext rfl (h'.others y hy) rfl rfl rfl rfl⟩

def intentsPart (own : Str → Str) : Isolation.Part (isolation own) (intentOwner own).isolation where
  get w := w.intents
  set intents w := { w with intents }
  alike_get h := ⟨h.left.intents, h.right.intents, congrArg TenantRows.intents h.view⟩
  alike_set h h' := ⟨{ h.left with intents := h'.left }, { h.right with intents := h'.right },
    congrArg₂ (fun (v : TenantRows) rows => { v with intents := rows }) h.view h'.view⟩
  moves_set h h' := ⟨{ h with intents := h'.holds }, fun y hy =>
    TenantRows.ext rfl rfl (h'.others y hy) rfl rfl rfl⟩

def effectsPart (own : Str → Str) : Isolation.Part (isolation own) (effectOwner own).isolation where
  get w := w.effects
  set effects w := { w with effects }
  alike_get h := ⟨h.left.effects, h.right.effects, congrArg TenantRows.effects h.view⟩
  alike_set h h' := ⟨{ h.left with effects := h'.left }, { h.right with effects := h'.right },
    congrArg₂ (fun (v : TenantRows) rows => { v with effects := rows }) h.view h'.view⟩
  moves_set h h' := ⟨{ h with effects := h'.holds }, fun y hy =>
    TenantRows.ext rfl rfl rfl (h'.others y hy) rfl rfl⟩

def statesPart (own : Str → Str) : Isolation.Part (isolation own) (Social.stateOwner own).isolation where
  get w := w.states
  set states w := { w with states }
  alike_get h := ⟨h.left.states, h.right.states, congrArg TenantRows.states h.view⟩
  alike_set h h' := ⟨{ h.left with states := h'.left }, { h.right with states := h'.right },
    congrArg₂ (fun (v : TenantRows) rows => { v with states := rows }) h.view h'.view⟩
  moves_set h h' := ⟨{ h with states := h'.holds }, fun y hy =>
    TenantRows.ext rfl rfl rfl rfl (h'.others y hy) rfl⟩

def mediaPart (own : Str → Str) : Isolation.Part (isolation own) (Media.mediaOwner own).isolation where
  get w := w.media
  set media w := { w with media }
  alike_get h := ⟨h.left.media, h.right.media, congrArg TenantRows.media h.view⟩
  alike_set h h' := ⟨{ h.left with media := h'.left }, { h.right with media := h'.right },
    congrArg₂ (fun (v : TenantRows) rows => { v with media := rows }) h.view h'.view⟩
  moves_set h h' := ⟨{ h with media := h'.holds }, fun y hy =>
    TenantRows.ext rfl rfl rfl rfl rfl (h'.others y hy)⟩

/-! ## The transactions of a tenant -/

variable {F : Floats} (P : Platform) (d : Media.Delivery)

/-- A transaction that is issued for the tenant: it names the tenant, and what it inserts has ids of
the tenant. -/
def Access.IssuedFor (own : Str → Str) (x : Str) : Access F → Prop
  | .ledger o => o.IssuedFor P own x
  | .account (.publication o) => o.IssuedFor own x
  | .account (.getConnection tenantId _) | .account (.deleteConnection tenantId _) => tenantId = x
  | .upsertConnection record => record.tenantId = x
  | .effect o => o.IssuedFor own x
  | .createState record _ =>
    record.tenantId = x ∧ own record.stateId = x ∧ own record.stateDigest = x
  | .consumeState lookup _ _ => lookup.tenantId = x
  | .reserveMedia record _ _ =>
    record.tenantId = x ∧ own record.mediaId = x ∧ own record.publicTokenDigest = x

/-- Every transaction is an isolated step of the tenant it is issued for. -/
theorem Access.isolated {o : Access F} (h : o.IssuedFor P own x) :
    (isolation own).Step x (o.run P d) := by
  cases o with
  | ledger o => exact (ledgerPart own).step (Ledger.Section.isolated P h)
  | account o =>
    cases o with
    | publication o => exact (intentsPart own).step (Publication.Statement.isolated h)
    | getConnection tenantId channelId =>
      obtain rfl := h
      refine .read fun w w' hw => ?_
      have hfind := Ownership.find?_alike ((connectionsPart own).alike_get hw)
        fun t _ => selects_connection tenantId channelId t
      exact congrArg (Option.map _) hfind
    | deleteConnection tenantId channelId =>
      obtain rfl := h
      have hsel := selects_connection tenantId channelId
      exact (connectionsPart own).step
        (f := fun t => (t.rows.any fun r => r.isFor tenantId channelId,
          t.delete fun r => r.isFor tenantId channelId))
        fun t _ ht => ⟨Ownership.any_alike ht fun t _ => hsel t, Ownership.delete_alike ht,
          Ownership.delete_moves ht.left (hsel t)⟩
  | upsertConnection record =>
    obtain rfl := h
    exact (connectionsPart own).step (Ownership.step_replace trivial rfl)
  | effect o => exact (effectsPart own).step (ModelEffect.Statement.isolated h)
  | createState record faults =>
    obtain ⟨htenant, hid, hdigest⟩ := h
    exact (statesPart own).step ((Social.Sqlite.isolated_createState htenant hid hdigest).commit faults)
  | consumeState lookup now faults =>
    exact (statesPart own).step ((Social.Sqlite.isolated_consumeState h).commit faults)
  | reserveMedia record content faults =>
    obtain ⟨rfl, hid, htoken⟩ := h
    exact (mediaPart own).step ((Isolation.isolated_statement fun _ _ ht =>
      Media.Sqlite.same_reserve hid htoken ht).commit faults)

theorem service_isolates (own : Str → Str) :
    (service (F := F) P d).Isolates (isolation own) (Access.IssuedFor P own) where
  step _ _ _ h := ⟨_, fun _ => rfl, Access.isolated P d h⟩
  crash _ _ := rfl
  env x _ := nomatch x

end

/-! ## Runs -/

section
variable {F : Floats} {Out : Sig} {α : Type}

/-- The programs of the requests. -/
abbrev Program (F : Floats) (Out : Sig) (α : Type) := Prog (Out.sum (accesses F)) Exn α

/-- The logs of their runs. -/
abbrev History (F : Floats) (Out : Sig) := Log (Out.sum (accesses F)) Empty

/-- A run of requests, one for each thread. -/
def Run (P : Platform) (d : Media.Delivery) (prog : Nat → Program F Out α) (start : Stores)
    (L : History F Out) (c : Config (Out.sum (accesses F)) Exn α Stores) : Prop :=
  Steps ((service P d).machine Out) (.start start prog) L c

variable {P : Platform} {d : Media.Delivery} {own : Str → Str} {owner : Nat → Str}
variable {prog prog' : Nat → Program F Out α} {start start' : Stores} {L : History F Out}
variable {c : Config (Out.sum (accesses F)) Exn α Stores} {tenant : Str}

end

/-! ## A sample run -/

namespace Sample

def floats : Floats where
  text _ := Py.lit "NaN"
  isFloatText := isFloatText_nan

def delivery : Media.Delivery := ⟨List.head?, List.mem_of_mem_head?, List.head?_eq_none_iff.1⟩

/-- A request of the tenant that stores its connection and looks it up. -/
def connect (tenantId : Str) : Program floats Reauthorize.questions (Option SocialConnection) :=
  .op (.inr (.upsertConnection ⟨tenantId, Py.lit "x", ⟨tenantId, Py.lit "user", [], none⟩⟩)) fun _ =>
    .op (.inr (.account (.getConnection tenantId (Py.lit "x")))) .ret

def tenantOf (i : Nat) : Str := if i = 0 then Py.lit "a" else Py.lit "b"

def stores : Stores where
  connections := .empty
  intents := .empty
  ledger := .empty
  effects := .empty
  states := .empty
  media := .empty

theorem told (own : Str → Str) : Told own stores where
  ledger := ⟨.empty, .empty, .empty, .empty⟩
  connections := .empty
  intents := .empty
  effects := .empty
  states := .empty
  media := .empty

/-- The request has found the tenant's connection. -/
def found (tenantId : Str) : Program floats Reauthorize.questions (Option SocialConnection) → Bool
  | .ret connection => connection.any (·.accountId == tenantId)
  | _ => false

/-- A request of the other tenant took a step. -/
def interfered (L : History floats Reauthorize.questions) : Bool := L.any (Entry.isBy 1)

end Sample

/-- A schedule whose outcome passes a test yields a run. -/
theorem Run.of_schedule {F : Floats} {Out : Sig} {α : Type} {P : Platform} {d : Media.Delivery}
    {prog : Nat → Program F Out α} {start : Stores} (schedule : List (Choice (Oracle Out) Empty))
    (test : History F Out → Config (Out.sum (accesses F)) Exn α Stores → Prop)
    [∀ L c, Decidable (test L c)]
    (h : ((((service P d).machine Out).simulate schedule (.start start prog)).map
      fun r => decide (test r.1 r.2)) = some true) :
    ∃ L c, Run P d prog start L c ∧ test L c :=
  Machine.exists_run h

end Tenants

end AgencyRuntime
