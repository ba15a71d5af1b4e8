import FoodDelivery.Order.Transactions

namespace FoodDelivery.OrderService

open Messaging CommitLog OptimisticLock

def OrderSaga.candidate (saga : OrderSaga) : StrandedSagaCandidate where
  orderId := saga.orderId
  tenantId := saga.tenantId
  state := saga.state
  updatedAt := saga.updatedAt

/-- The rows `findNonTerminal` returns, in whatever order the database has them. -/
def Db.FindsNonTerminal (db : Db) (olderThan : Int) (candidates : List StrandedSagaCandidate) : Prop :=
  ∀ candidate, candidate ∈ candidates ↔ ∃ saga, db.sagas.find candidate.orderId = some saga ∧
    saga.state ∈ Db.nonTerminalSagaStates ∧ saga.updatedAt < olderThan ∧ candidate = saga.candidate

def selectStrandedSagas (candidates : List StrandedSagaCandidate) (now timeoutMs : Int) : List StrandedSagaCandidate :=
  candidates.filter fun candidate =>
    candidate.state ∈ Db.nonTerminalSagaStates ∧ candidate.updatedAt < now - timeoutMs

/-- Where a sweep of the reaper stands: between two candidates, or with what
`recoverOne` has read so far. -/
inductive Sweep
  | idle
  | worklist (rest : List StrandedSagaCandidate)
  | sagaRead (candidate : StrandedSagaCandidate) (saga : OrderSaga) (rest : List StrandedSagaCandidate)
  | orderRead (candidate : StrandedSagaCandidate) (saga : OrderSaga) (order : Order)
      (rest : List StrandedSagaCandidate)

structure Service where
  db : Db
  sweep : Sweep

inductive Step
  | transaction (act : Transaction)
  | findNonTerminal (now : Nat)
  | finish
  | findByOrderId
  | findById
  | recover (outcome : Recovery) (randomUuid : Uuid) (now : Nat) (stamp : Stamp)
  | giveUp

def Transaction.IsSweep : Transaction → Prop
  | .recoverOne .. => True
  | _ => False

/-- One step of the service while a single sweep runs (the advisory lock
admits no second one): any other transaction, with reads as old as it likes,
or the sweep's next statement. -/
inductive Sweeps (maxAttempts timeoutMs : Nat) (seen : Service → Prop) : Step → Service → Service → Prop
  | transaction {act db db' sweep} : ¬ act.IsSweep → commits (fun read => ∃ s, seen s ∧ s.db = read) act db db' →
      Sweeps maxAttempts timeoutMs seen (.transaction act) ⟨db, sweep⟩ ⟨db', sweep⟩
  | findNonTerminal {db now candidates} : db.FindsNonTerminal ((now : Int) - timeoutMs) candidates →
      Sweeps maxAttempts timeoutMs seen (.findNonTerminal now) ⟨db, .idle⟩
        ⟨db, .worklist (selectStrandedSagas candidates now timeoutMs)⟩
  | finish {db} : Sweeps maxAttempts timeoutMs seen .finish ⟨db, .worklist []⟩ ⟨db, .idle⟩
  | sagaMissing {db candidate rest} : db.findByOrderId candidate.tenantId candidate.orderId = none →
      Sweeps maxAttempts timeoutMs seen .findByOrderId ⟨db, .worklist (candidate :: rest)⟩ ⟨db, .worklist rest⟩
  | sagaFound {db candidate rest saga} : db.findByOrderId candidate.tenantId candidate.orderId = some saga →
      Sweeps maxAttempts timeoutMs seen .findByOrderId ⟨db, .worklist (candidate :: rest)⟩
        ⟨db, .sagaRead candidate saga rest⟩
  | orderMissing {db candidate rest saga} : db.findById candidate.tenantId candidate.orderId = none →
      Sweeps maxAttempts timeoutMs seen .findById ⟨db, .sagaRead candidate saga rest⟩ ⟨db, .worklist rest⟩
  | orderFound {db candidate rest saga order} : db.findById candidate.tenantId candidate.orderId = some order →
      Sweeps maxAttempts timeoutMs seen .findById ⟨db, .sagaRead candidate saga rest⟩
        ⟨db, .orderRead candidate saga order rest⟩
  | recover {db db' candidate rest saga order outcome randomUuid now stamp} :
      recoverRead maxAttempts candidate saga order randomUuid now stamp db = (outcome, db') →
      Sweeps maxAttempts timeoutMs seen (.recover outcome randomUuid now stamp) ⟨db, .orderRead candidate saga order rest⟩
        ⟨db', .worklist rest⟩
  /-- A statement of `recoverOne` fails, and its transaction, if begun, is rolled back. -/
  | giveUpSaga {db candidate rest} :
      Sweeps maxAttempts timeoutMs seen .giveUp ⟨db, .worklist (candidate :: rest)⟩ ⟨db, .worklist rest⟩
  | giveUpOrder {db candidate saga rest} :
      Sweeps maxAttempts timeoutMs seen .giveUp ⟨db, .sagaRead candidate saga rest⟩ ⟨db, .worklist rest⟩
  | giveUpTransaction {db candidate saga order rest} :
      Sweeps maxAttempts timeoutMs seen .giveUp ⟨db, .orderRead candidate saga order rest⟩ ⟨db, .worklist rest⟩

/-- The runs of the service from an empty database, with sweeps one after the other. -/
abbrev SweepRun (maxAttempts timeoutMs : Nat) : List (Commit Service Step) → Service → Prop :=
  History (· = ⟨Db.empty, .idle⟩) (Sweeps maxAttempts timeoutMs)

/-- What a committed re-drive must be, whatever happened since the sweep's
reads: the command the stored saga and order call for, and nothing but one
more attempt on that saga. -/
structure Redriven (maxAttempts : Nat) (command : OutboxCommandEntry) (randomUuid : Uuid) (now : Nat) (stamp : Stamp)
    (db db' : Db) : Prop where
  prescribed : ∃ id saga order, db.sagas.find id = some saga ∧ db.orders.find id = some order ∧
    decideReconcileAction saga order maxAttempts randomUuid = .ok (.redrive command) ∧
    SagaCommand id order saga.state command ∧ saga.isTerminal = false ∧
    db' = { db with
      sagas := db.sagas.put { saga with attempts := saga.attempts + 1, updatedAt := now }
      outbox := db.outbox ++ [command.toRow saga.tenantId stamp] }
  /-- No transition is undone, and none that was about to commit is refused. -/
  undone : ∀ id saga, db.sagas.find id = some saga →
    ∃ saga', db'.sagas.find id = some saga' ∧ sagaLock.core saga' = sagaLock.core saga
  refused : ∀ moved now result, db.transition moved now = .ok result →
    ∃ result', db'.transition moved now = .ok result'

/-- Attempts only ever return to zero in a step that is no re-drive. -/
def KeepsAttempts (db db' : Db) : Prop :=
  ∀ id saga', db'.sagas.find id = some saga' →
    saga'.attempts = 0 ∨ ∃ saga, db.sagas.find id = some saga ∧ saga'.attempts = saga.attempts

/-- What the reaper promises about one step. -/
def Truthful (maxAttempts : Nat) (c : Commit Service Step) : Prop :=
  (match c.act, c.before.sweep with
    | .transaction _, _ => KeepsAttempts c.before.db c.after.db
    | .recover (.redriven command) randomUuid now stamp, _ =>
      Redriven maxAttempts command randomUuid now stamp c.before.db c.after.db
    | .recover .escalated _ _ _, .orderRead _ saga _ _ =>
      saga.isTerminal = false ∧ maxAttempts ≤ saga.attempts ∧ c.after.db = c.before.db
    | _, _ => c.after.db = c.before.db) ∧
  ∀ id saga, c.after.db.sagas.find id = some saga → saga.attempts ≤ maxAttempts

/-- The saga a sweep is about to decide on has not ended at its cap. -/
def OpenOrBelowCap (maxAttempts : Nat) (c : Commit Service Step) : Prop :=
  match c.act, c.before.sweep with
  | .recover .., .orderRead _ saga _ _ => saga.isTerminal = false ∨ saga.attempts < maxAttempts
  | _, _ => True

variable {maxAttempts timeoutMs : Nat} {log : List (Commit Service Step)} {s : Service}

theorem Recovers.later {candidate : StrandedSagaCandidate} {saga : OrderSaga} {order : Order} {randomUuid : Uuid}
    {now : Nat} {stamp : Stamp} {db db' : Db} {outcome : Recovery}
    (recovers : Recovers maxAttempts candidate saga order randomUuid now stamp db outcome db') : db.Later db' := by
  cases recovers with
  | escalated => exact .refl db
  | failed => exact .refl db
  | redriven _ stands _ => exact ⟨.refl _, .write stands rfl ⟨rfl, le_rfl, fun _ => rfl⟩⟩

theorem recoverRead_eq {candidate : StrandedSagaCandidate} {saga : OrderSaga} {order : Order} {randomUuid : Uuid}
    {now : Nat} {stamp : Stamp} {db db' : Db} {outcome : Recovery}
    (run : recoverRead maxAttempts candidate saga order randomUuid now stamp db = (outcome, db')) :
    Recovers maxAttempts candidate saga order randomUuid now stamp db outcome db' := by
  have recovers := recoverRead_recovers maxAttempts candidate saga order randomUuid now stamp db
  rw [run] at recovers
  exact recovers

theorem SweepRun.later (run : SweepRun maxAttempts timeoutMs log s) : ∀ p, Seen log s p → p.db.Later s.db := by
  refine History.seen_le (R := fun p s => p.db.Later s.db) run (fun _ => .refl _) (fun _ _ _ => .trans) ?_
  intro log s step s' _ behind next
  cases next with
  | transaction _ commit =>
    obtain ⟨reads, ⟨p, sagaSeen, sagaDb⟩, ⟨q, orderSeen, orderDb⟩, execution⟩ := commit
    exact (Transaction.effect ⟨sagaDb ▸ behind p sagaSeen, orderDb ▸ behind q orderSeen⟩ execution).later
  | recover outcome => exact (recoverRead_eq outcome).later
  | _ => exact .refl _

/-- What another transaction commits during a sweep is one of the effects. -/
theorem SweepRun.effect (run : SweepRun maxAttempts timeoutMs log s) {act : Transaction} {db' : Db}
    (next : commits (fun read => ∃ p, Seen log s p ∧ p.db = read) act s.db db') :
    ∃ reads : Reads, reads.Later s.db ∧ Effect reads s.db act db' := by
  obtain ⟨reads, ⟨p, sagaSeen, sagaDb⟩, ⟨q, orderSeen, orderDb⟩, execution⟩ := next
  have later : reads.Later s.db := ⟨sagaDb ▸ run.later p sagaSeen, orderDb ▸ run.later q orderSeen⟩
  exact ⟨reads, later, Transaction.effect later execution⟩

theorem KeepsAttempts.of_put {db db' : Db} {id : Uuid} {saga saga' : OrderSaga}
    (written : db'.sagas = db.sagas.put saga') (stands : db.sagas.find id = some saga)
    (sameKey : saga'.orderId = saga.orderId) (kept : saga'.attempts = 0 ∨ saga'.attempts = saga.attempts) :
    KeepsAttempts db db' := by
  intro other found atOther
  rw [written] at atOther
  rcases Table.cases_put atOther with ⟨atKey, rfl⟩ | ⟨-, old⟩
  · have here : other = id := atKey.trans (sameKey.trans (db.sagas.keyed id saga stands))
    exact kept.imp_right fun same => ⟨saga, here ▸ stands, same⟩
  · exact Or.inr ⟨found, old, rfl⟩

theorem Effect.keepsAttempts {reads : Reads} {db db' : Db} {act : Transaction} (effect : Effect reads db act db')
    (other : ¬ act.IsSweep) : KeepsAttempts db db' := by
  have unchanged : KeepsAttempts db db := fun _ saga stands => Or.inr ⟨saga, stands, rfl⟩
  cases effect with
  | placed _ _ _ newSaga =>
    intro id saga stands
    rcases Table.cases_put stands with ⟨-, rfl⟩ | ⟨-, old⟩
    · exact Or.inl rfl
    · exact Or.inr ⟨saga, old, rfl⟩
  | reacted _ _ _ stands => exact .of_put rfl stands rfl (Or.inr rfl)
  | compensating _ _ stands => exact .of_put rfl stands rfl (Or.inr rfl)
  | reset stands => exact .of_put rfl stands rfl (Or.inl rfl)
  | redriven => exact absurd trivial other
  | skipped => exact absurd trivial other
  | _ => exact unchanged

/-- What has become of the saga `recoverOne` read: since then nobody but the
sweep itself could have raised its attempts. -/
def HeldSaga (db : Db) (candidate : StrandedSagaCandidate) (saga : OrderSaga) : Prop :=
  ∃ stored, db.sagas.find candidate.orderId = some stored ∧ sagaLock.RowLater saga stored ∧
    saga.tenantId = candidate.tenantId ∧ stored.attempts ≤ saga.attempts

def HeldOrder (db : Db) (candidate : StrandedSagaCandidate) (order : Order) : Prop :=
  ∃ stored, db.orders.find candidate.orderId = some stored ∧ orderLock.RowLater order stored

def Sweep.Holds (db : Db) : Sweep → Prop
  | .sagaRead candidate saga _ => HeldSaga db candidate saga
  | .orderRead candidate saga order _ => HeldSaga db candidate saga ∧ HeldOrder db candidate order
  | _ => True

def Db.Capped (maxAttempts : Nat) (db : Db) : Prop :=
  ∀ id saga, db.sagas.find id = some saga → saga.attempts ≤ maxAttempts

theorem HeldSaga.later {db db' : Db} {candidate : StrandedSagaCandidate} {saga : OrderSaga}
    (held : HeldSaga db candidate saga) (later : db.Later db') (keeps : KeepsAttempts db db') :
    HeldSaga db' candidate saga := by
  obtain ⟨stored, stands, grows, tenant, below⟩ := held
  obtain ⟨stored', stands', grows'⟩ := later.sagas _ _ stands
  refine ⟨stored', stands', grows.trans grows', tenant, ?_⟩
  rcases keeps _ _ stands' with zero | ⟨before, standsBefore, same⟩
  · omega
  · cases Option.some.inj (stands.symm.trans standsBefore)
    omega

theorem HeldOrder.later {db db' : Db} {candidate : StrandedSagaCandidate} {order : Order}
    (held : HeldOrder db candidate order) (later : db.Later db') : HeldOrder db' candidate order := by
  obtain ⟨stored, stands, grows⟩ := held
  obtain ⟨stored', stands', grows'⟩ := later.orders _ _ stands
  exact ⟨stored', stands', grows.trans grows'⟩

theorem Sweep.Holds.later {db db' : Db} {sweep : Sweep} (holds : sweep.Holds db) (later : db.Later db')
    (keeps : KeepsAttempts db db') : sweep.Holds db' := by
  cases sweep with
  | idle => trivial
  | worklist => trivial
  | sagaRead => exact HeldSaga.later holds later keeps
  | orderRead => exact ⟨holds.1.later later keeps, holds.2.later later⟩

theorem KeepsAttempts.capped {db db' : Db} (keeps : KeepsAttempts db db') (capped : db.Capped maxAttempts) :
    db'.Capped maxAttempts := by
  intro id saga stands
  rcases keeps id saga stands with zero | ⟨before, standsBefore, same⟩
  · omega
  · have bound := capped id before standsBefore
    omega

/-- A re-drive raises one saga's attempts, and only below the cap. -/
theorem Recovers.capped {candidate : StrandedSagaCandidate} {saga : OrderSaga} {order : Order} {randomUuid : Uuid}
    {now : Nat} {stamp : Stamp} {db db' : Db} {outcome : Recovery}
    (recovers : Recovers maxAttempts candidate saga order randomUuid now stamp db outcome db')
    (held : HeldSaga db candidate saga) (capped : db.Capped maxAttempts) : db'.Capped maxAttempts := by
  cases recovers with
  | escalated => exact capped
  | failed => exact capped
  | redriven decided stands =>
    intro id found atId
    rcases Table.cases_put atId with ⟨-, rfl⟩ | ⟨-, old⟩
    · obtain ⟨stored, stands', -, -, below⟩ := held
      cases Option.some.inj (stands.symm.trans stands')
      have bound := (decideReconcileAction_redrive decided).1
      exact Nat.lt_of_le_of_lt below bound
    · exact capped id found old

structure Service.Sound (maxAttempts : Nat) (s : Service) : Prop where
  holds : s.sweep.Holds s.db
  capped : s.db.Capped maxAttempts

theorem SweepRun.sound (run : SweepRun maxAttempts timeoutMs log s) : s.Sound maxAttempts := by
  induction run with
  | start first =>
    cases first
    exact ⟨trivial, fun _ _ absent => by cases absent⟩
  | @commit log s step s' previous next ih =>
    obtain ⟨holds, capped⟩ := ih
    cases next with
    | transaction other commit =>
      obtain ⟨reads, -, effect⟩ := SweepRun.effect previous commit
      have keeps := effect.keepsAttempts other
      exact ⟨holds.later effect.later keeps, keeps.capped capped⟩
    | sagaFound found =>
      obtain ⟨stands, tenant⟩ := Db.findByOrderId_some.mp found
      exact ⟨⟨_, stands, .refl _, tenant, le_rfl⟩, capped⟩
    | orderFound found =>
      obtain ⟨stands, -⟩ := Db.findById_some.mp found
      exact ⟨⟨holds, _, stands, .refl _⟩, capped⟩
    | recover outcome => exact ⟨trivial, (recoverRead_eq outcome).capped holds.1 capped⟩
    | _ => exact ⟨trivial, capped⟩

/-- The decision depends on nothing that can change behind the state. -/
theorem decideReconcileAction_later {saga stored : OrderSaga} {order storedOrder : Order} {randomUuid : Uuid}
    {command : OutboxCommandEntry}
    (decided : decideReconcileAction saga order maxAttempts randomUuid = .ok (.redrive command))
    (sagaLater : sagaLock.RowLater saga stored) (orderLater : orderLock.RowLater order storedOrder)
    (sameState : stored.state = saga.state) (below : stored.attempts ≤ saga.attempts) :
    decideReconcileAction stored storedOrder maxAttempts randomUuid = .ok (.redrive command) := by
  have sameId : saga.orderId = stored.orderId := congrArg (·.1) sagaLater.fixed
  have sameCorrelation : saga.correlationId = stored.correlationId := congrArg (·.2.2) sagaLater.fixed
  have sameItems : order.items = storedOrder.items := (congrArg Order.items orderLater.fixed :)
  have sameTotal : order.totalCents = storedOrder.totalCents := (congrArg Order.totalCents orderLater.fixed :)
  have bound := (decideReconcileAction_redrive decided).1
  have belowCap : ¬ stored.attempts ≥ maxAttempts := by omega
  rw [← decided]
  unfold decideReconcileAction Order.itemQtys
  rw [if_neg belowCap, if_neg (Nat.not_le_of_lt bound), sameState, sameId, sameCorrelation, sameItems, sameTotal]

theorem SagaCommand.open {orderId : Uuid} {order : Order} {saga : OrderSaga} {command : OutboxCommandEntry}
    (moves : SagaCommand orderId order saga.state command) : saga.isTerminal = false := by
  unfold OrderSaga.isTerminal
  cases state : saga.state with
  | started => rfl
  | stockReserved => rfl
  | compensating => rfl
  | completed => rw [state] at moves; cases moves
  | cancelled => rw [state] at moves; cases moves

/-- A committed re-drive is true of what is stored when it commits. -/
theorem Recovers.redriven_spec {candidate : StrandedSagaCandidate} {saga : OrderSaga} {order : Order}
    {randomUuid : Uuid} {now : Nat} {stamp : Stamp} {db db' : Db} {command : OutboxCommandEntry}
    (recovers : Recovers maxAttempts candidate saga order randomUuid now stamp db (.redriven command) db')
    (heldSaga : HeldSaga db candidate saga) (heldOrder : HeldOrder db candidate order) :
    Redriven maxAttempts command randomUuid now stamp db db' := by
  cases recovers with
  | @redriven _ stored decided stands sameState =>
    obtain ⟨stored', stands', sagaLater, tenant, below⟩ := heldSaga
    cases Option.some.inj (stands.symm.trans stands')
    obtain ⟨storedOrder, orderStands, orderLater⟩ := heldOrder
    have prescribed := decideReconcileAction_later decided sagaLater orderLater sameState below
    have moves := (decideReconcileAction_redrive prescribed).2
    have sameTenant : stored.tenantId = candidate.tenantId :=
      (congrArg (·.2.1) sagaLater.fixed).symm.trans tenant
    have atSaga : stored.orderId = candidate.orderId := db.sagas.keyed _ _ stands
    have undone : ∀ id row, db.sagas.find id = some row → ∃ row',
        (db.sagas.put { stored with attempts := stored.attempts + 1, updatedAt := now }).find id = some row' ∧
          sagaLock.core row' = sagaLock.core row := by
      intro id row atId
      by_cases same : id = candidate.orderId
      · subst same
        cases Option.some.inj (stands.symm.trans atId)
        exact ⟨_, Table.find_put_key atSaga, rfl⟩
      · exact ⟨row, (Table.find_put_of_ne (atSaga ▸ same)).trans atId, rfl⟩
    refine ⟨⟨candidate.orderId, stored, storedOrder, stands, orderStands, prescribed, atSaga ▸ moves,
      moves.open, by rw [sameTenant]⟩, undone, ?_⟩
    intro moved time result run
    obtain ⟨row, atRow, tenant, version, -⟩ := Db.transition_ok run
    obtain ⟨row', atRow', core⟩ := undone _ row atRow
    have sameTenant : row'.tenantId = row.tenantId := (congrArg OrderSaga.tenantId core :)
    have sameVersion : row'.version = row.version := (congrArg OrderSaga.version core :)
    exact Db.transition_runs atRow' (sameTenant.trans tenant) (sameVersion.trans version) time

section outcomes

variable {candidate : StrandedSagaCandidate} {saga : OrderSaga} {order : Order} {randomUuid : Uuid} {now : Nat}
  {stamp : Stamp} {db db' : Db}

theorem Recovers.escalated_spec
    (recovers : Recovers maxAttempts candidate saga order randomUuid now stamp db .escalated db') :
    maxAttempts ≤ saga.attempts ∧ db' = db := by
  cases recovers with
  | escalated reached => exact ⟨reached, rfl⟩

theorem Recovers.failed_spec {error : OrderError}
    (recovers : Recovers maxAttempts candidate saga order randomUuid now stamp db (.failed error) db') :
    saga.attempts < maxAttempts ∧ db' = db := by
  cases recovers with
  | failed below => exact ⟨below, rfl⟩

theorem Recovers.below {command : OutboxCommandEntry}
    (recovers : Recovers maxAttempts candidate saga order randomUuid now stamp db (.redriven command) db') :
    saga.attempts < maxAttempts := by
  cases recovers with
  | redriven decided => exact (decideReconcileAction_redrive decided).1

end outcomes

/-- A step keeps the reaper's promises exactly when the sweep is not about to
decide on a saga that has ended at its cap. -/
theorem Sweeps.truthful_iff {step : Step} {s' : Service} (run : SweepRun maxAttempts timeoutMs log s)
    (next : Sweeps maxAttempts timeoutMs (Seen log s) step s s') :
    Truthful maxAttempts ⟨s, step, s'⟩ ↔ OpenOrBelowCap maxAttempts ⟨s, step, s'⟩ := by
  obtain ⟨holds, capped⟩ := run.sound
  have after : SweepRun maxAttempts timeoutMs (⟨s, step, s'⟩ :: log) s' := .commit run next
  have capped' : s'.db.Capped maxAttempts := after.sound.capped
  cases next with
  | transaction other commit =>
    obtain ⟨reads, -, effect⟩ := run.effect commit
    exact ⟨fun _ => trivial, fun _ => ⟨effect.keepsAttempts other, capped'⟩⟩
  | @recover _ db' candidate rest saga order outcome randomUuid now stamp result =>
    have recovers := recoverRead_eq result
    cases outcome with
    | escalated =>
      obtain ⟨reached, rfl⟩ := recovers.escalated_spec
      constructor
      · rintro ⟨⟨terminal, -⟩, -⟩
        exact Or.inl terminal
      · rintro (terminal | below)
        · exact ⟨⟨terminal, reached, rfl⟩, capped'⟩
        · exact absurd reached (Nat.not_le_of_lt below)
    | failed error =>
      obtain ⟨below, rfl⟩ := recovers.failed_spec
      exact ⟨fun _ => Or.inr below, fun _ => ⟨rfl, capped'⟩⟩
    | redriven command =>
      obtain ⟨heldSaga, heldOrder⟩ := holds
      exact ⟨fun _ => Or.inr recovers.below, fun _ => ⟨recovers.redriven_spec heldSaga heldOrder, capped'⟩⟩
  | _ => exact ⟨fun _ => trivial, fun _ => ⟨rfl, capped'⟩⟩

/-- Every step of a run keeps the reaper's promises exactly when the sweep
never decides on a saga that has ended at its cap. -/
theorem SweepRun.truthful_iff_open_or_below_cap (run : SweepRun maxAttempts timeoutMs log s) :
    (∀ c ∈ log, Truthful maxAttempts c) ↔ ∀ c ∈ log, OpenOrBelowCap maxAttempts c := by
  have each : ∀ c ∈ log, (Truthful maxAttempts c ↔ OpenOrBelowCap maxAttempts c) :=
    run.forall_commits fun _ _ _ _ previous next => Sweeps.truthful_iff previous next
  exact forall₂_congr each

/-- The only saga of a database is the whole answer of `findNonTerminal`. -/
theorem Db.findsNonTerminal_only {db : Db} {saga : OrderSaga} {olderThan : Int}
    (only : ∀ id row, db.sagas.find id = some row → row = saga) (stands : db.sagas.find saga.orderId = some saga)
    (unfinished : saga.state ∈ Db.nonTerminalSagaStates) (old : saga.updatedAt < olderThan) :
    db.FindsNonTerminal olderThan [saga.candidate] := by
  intro candidate
  rw [List.mem_singleton]
  constructor
  · rintro rfl
    exact ⟨saga, stands, unfinished, old, rfl⟩
  · rintro ⟨row, atRow, -, -, same⟩
    rw [same, only _ row atRow]

section sample

def startedSaga : OrderSaga := OrderSaga.start "order" "tenant" "correlation" 0

/-- The sample order after it was placed. -/
def placedDb : Db := placeSample.apply Db.empty

/-- The same after one re-drive, at time 5. -/
def redrivenDb : Db :=
  ((placedDb.findById "tenant" "order").map fun order =>
    (recoverRead 1 startedSaga.candidate startedSaga order "uuid" 5 ⟨"redrive", "uuid"⟩ placedDb).2).getD placedDb

def redrivenSaga : OrderSaga := { startedSaga with attempts := 1, updatedAt := 5 }

/-- The same after the reservation was refused. -/
def rejectedDb : Db := (replySample .inventory "e1" .stockReservationFailed).apply redrivenDb

theorem placedDb_only (id : Uuid) (row : OrderSaga) (atId : placedDb.sagas.find id = some row) :
    row = startedSaga := by
  rcases Table.cases_put (t := Table.empty) atId with ⟨-, same⟩ | ⟨-, absent⟩
  · exact same
  · cases absent

theorem redrivenDb_only (id : Uuid) (row : OrderSaga) (atId : redrivenDb.sagas.find id = some row) :
    row = redrivenSaga := by
  rcases Table.cases_put (t := placedDb.sagas) atId with ⟨-, same⟩ | ⟨other, old⟩
  · exact same
  · have atKey := placedDb.sagas.keyed id row old
    rw [placedDb_only id row old] at atKey
    exact absurd atKey.symm other

/-- One sweep with a cap of one attempt re-drives the sample order. -/
theorem sampleSweep : ∃ log, SweepRun 1 1 log ⟨redrivenDb, .idle⟩ ∧ log.length = 6 := by
  have placed := (History.start rfl : SweepRun 1 1 [] ⟨Db.empty, .idle⟩).commit
    (show Sweeps 1 1 _ (.transaction placeSample) _ ⟨placedDb, .idle⟩ from
      .transaction id ⟨⟨_, _⟩, ⟨_, .current, rfl⟩, ⟨_, .current, rfl⟩, rfl⟩)
  have found := placed.commit (show Sweeps 1 1 _ (.findNonTerminal 2) _ ⟨_, .worklist [startedSaga.candidate]⟩ from
    .findNonTerminal (Db.findsNonTerminal_only placedDb_only rfl (by decide) (by decide)))
  have sagaRead := found.commit
    (show Sweeps 1 1 _ _ _ ⟨_, .sagaRead startedSaga.candidate startedSaga []⟩ from .sagaFound rfl)
  have orderRead := sagaRead.commit (.orderFound rfl)
  have recovered := orderRead.commit (show Sweeps 1 1 _ (.recover _ _ _ ⟨"redrive", "uuid"⟩) _ ⟨redrivenDb, .worklist []⟩ from
    .recover rfl)
  exact ⟨_, recovered.commit .finish, rfl⟩

end sample

theorem truthful_of_sample_sweep : ∃ log s, SweepRun 1 1 log s ∧ log.length = 6 ∧
    ((∀ c ∈ log, Truthful 1 c) ↔ ∀ c ∈ log, OpenOrBelowCap 1 c) := by
  obtain ⟨log, run, steps⟩ := sampleSweep
  exact ⟨log, _, run, steps, run.truthful_iff_open_or_below_cap⟩

/-- The saga reaches its cap, is found stranded once more, and is cancelled
before the sweep reads it: the sweep escalates a saga that has ended. -/
theorem truthful_broken_by_cancelled_saga : ∃ log s, SweepRun 1 1 log s ∧ ∃ c ∈ log, ¬ Truthful 1 c := by
  obtain ⟨log, run, -⟩ := sampleSweep
  have found := run.commit (show Sweeps 1 1 _ (.findNonTerminal 9) _ ⟨_, .worklist [redrivenSaga.candidate]⟩ from
    .findNonTerminal (Db.findsNonTerminal_only redrivenDb_only rfl (by decide) (by decide)))
  have rejected := found.commit
    (show Sweeps 1 1 _ (.transaction (replySample .inventory "e1" .stockReservationFailed)) _ ⟨rejectedDb, _⟩ from
      .transaction id ⟨⟨_, _⟩, ⟨_, .current, rfl⟩, ⟨_, .current, rfl⟩, rfl⟩)
  have sagaRead := rejected.commit (.sagaFound rfl)
  have orderRead := sagaRead.commit (.orderFound rfl)
  have escalated := orderRead.commit
    (show Sweeps 1 1 _ (.recover .escalated "uuid" 12 ⟨"unused", "unused"⟩) _ ⟨rejectedDb, .worklist []⟩ from
      .recover rfl)
  refine ⟨_, _, escalated, _, List.mem_cons_self .., ?_⟩
  rintro ⟨⟨terminal, -⟩, -⟩
  cases terminal

end FoodDelivery.OrderService
