import FoodDelivery.Lib.Table
import FoodDelivery.Order.Commands

namespace FoodDelivery.OrderService

open Messaging

structure IdempotencyKey where
  tenantId : Uuid
  userId : String
  key : String
  deriving DecidableEq, Repr

structure IdempotencyRow where
  claim : IdempotencyKey
  orderId : Uuid
  deriving DecidableEq, Repr

/-- The order service's database. -/
structure Db where
  orders : Table Order.id
  sagas : Table OrderSaga.orderId
  idempotencyKeys : Table IdempotencyRow.claim
  outbox : List OutboxRow
  processedEvents : List Uuid

namespace Db

def empty : Db where
  orders := Table.empty
  sagas := Table.empty
  idempotencyKeys := Table.empty
  outbox := []
  processedEvents := []

def findOrderId (db : Db) (claim : IdempotencyKey) : Option Uuid :=
  (db.idempotencyKeys.find claim).map (·.orderId)

/-- The key is unique by its index. -/
def save (db : Db) (claim : IdempotencyKey) (orderId : Uuid) : Except OrderError Db :=
  if db.idempotencyKeys.find claim = none then
    pure { db with idempotencyKeys := db.idempotencyKeys.put { claim, orderId } }
  else throw .uniqueViolation

def findById (db : Db) (tenantId id : Uuid) : Option Order :=
  (db.orders.find id).filter fun row => row.tenantId = tenantId

def insertOrder (db : Db) (order : Order) : Except OrderError Db :=
  if db.orders.find order.id = none then pure { db with orders := db.orders.put order }
  else throw .uniqueViolation

/-- The guarded update, with the row as the reload after it returns it. -/
def updateStatus (db : Db) (order : Order) : Except OrderError (Order × Db) :=
  match (db.orders.find order.id).filter fun row => row.tenantId = order.tenantId ∧ row.version = order.version with
  | some row =>
    let saved := { row with status := order.status, version := row.version + 1 }
    pure (saved, { db with orders := db.orders.put saved })
  | none => throw (.orderConcurrencyConflict order.id)

def findByOrderId (db : Db) (tenantId orderId : Uuid) : Option OrderSaga :=
  (db.sagas.find orderId).filter fun row => row.tenantId = tenantId

def insertSaga (db : Db) (saga : OrderSaga) : Except OrderError Db :=
  if db.sagas.find saga.orderId = none then pure { db with sagas := db.sagas.put saga }
  else throw .uniqueViolation

def transition (db : Db) (saga : OrderSaga) (now : Nat) : Except OrderError (OrderSaga × Db) :=
  match (db.sagas.find saga.orderId).filter fun row => row.tenantId = saga.tenantId ∧ row.version = saga.version with
  | some row =>
    pure ({ saga with version := saga.version + 1, updatedAt := now }, { db with sagas := db.sagas.put { row with
      state := saga.state, lastEventId := saga.lastEventId, version := row.version + 1, updatedAt := now } })
  | none => throw (.sagaConcurrencyConflict saga.orderId)

def recordReconcileAttempt (db : Db) (orderId : Uuid) (expectedState : SagaState) (now : Nat) :
    Except OrderError Db :=
  match (db.sagas.find orderId).filter fun row => row.state = expectedState with
  | some row => pure { db with sagas := db.sagas.put { row with attempts := row.attempts + 1, updatedAt := now } }
  | none => throw (.sagaStateChanged orderId expectedState)

def nonTerminalSagaStates : List SagaState := [.started, .stockReserved, .compensating]

inductive ResetOutcome
  | reset
  | terminal
  | notFound
  deriving DecidableEq, Repr

def resetReconcileAttempts (db : Db) (tenantId orderId : Uuid) : ResetOutcome × Db :=
  match (db.sagas.find orderId).filter fun row =>
      row.tenantId = tenantId ∧ row.state ∈ nonTerminalSagaStates with
  | some row => (.reset, { db with sagas := db.sagas.put { row with attempts := 0 } })
  | none => (if (db.findByOrderId tenantId orderId).isSome then .terminal else .notFound, db)

/-- Rows stand in the order of their commits. -/
def append (db : Db) (entry : OutboxCommandEntry) (tenantId : Uuid) (stamp : Stamp) : Db :=
  { db with outbox := db.outbox ++ [entry.toRow tenantId stamp] }

/-- `IdempotentConsumer.runOnce` over the `processed_events` table: an event
id recorded before ends the transaction without the work. -/
def runOnce (db : Db) (eventId : Uuid) (work : Db → Except OrderError Db) : Except OrderError Db :=
  if eventId ∈ db.processedEvents then pure db
  else work { db with processedEvents := eventId :: db.processedEvents }

theorem findById_some {db : Db} {tenantId id : Uuid} {order : Order} :
    db.findById tenantId id = some order ↔ db.orders.find id = some order ∧ order.tenantId = tenantId := by
  simp only [findById, Option.filter_eq_some_iff, decide_eq_true_eq]

theorem findByOrderId_some {db : Db} {tenantId orderId : Uuid} {saga : OrderSaga} :
    db.findByOrderId tenantId orderId = some saga ↔
      db.sagas.find orderId = some saga ∧ saga.tenantId = tenantId := by
  simp only [findByOrderId, Option.filter_eq_some_iff, decide_eq_true_eq]

theorem save_ok {db db' : Db} {claim : IdempotencyKey} {orderId : Uuid} :
    db.save claim orderId = .ok db' ↔ db.idempotencyKeys.find claim = none ∧
      { db with idempotencyKeys := db.idempotencyKeys.put { claim, orderId } } = db' := by
  rw [save, Except.guard_ok, Except.pure_ok]

theorem insertOrder_ok {db db' : Db} {order : Order} :
    db.insertOrder order = .ok db' ↔
      db.orders.find order.id = none ∧ { db with orders := db.orders.put order } = db' := by
  rw [insertOrder, Except.guard_ok, Except.pure_ok]

theorem insertSaga_ok {db db' : Db} {saga : OrderSaga} :
    db.insertSaga saga = .ok db' ↔
      db.sagas.find saga.orderId = none ∧ { db with sagas := db.sagas.put saga } = db' := by
  rw [insertSaga, Except.guard_ok, Except.pure_ok]

theorem updateStatus_ok {db : Db} {order : Order} {result : Order × Db} (run : db.updateStatus order = .ok result) :
    ∃ row, db.orders.find order.id = some row ∧ row.version = order.version ∧
      result.1 = { row with status := order.status, version := row.version + 1 } ∧
      result.2 = { db with orders := db.orders.put result.1 } := by
  unfold updateStatus at run
  split at run
  · rename_i row found
    simp only [Option.filter_eq_some_iff, decide_eq_true_eq] at found
    cases Except.ok.inj run
    exact ⟨row, found.1, found.2.2, rfl, rfl⟩
  · exact absurd run Except.throw_ok

theorem transition_ok {db : Db} {saga : OrderSaga} {now : Nat} {result : OrderSaga × Db}
    (run : db.transition saga now = .ok result) :
    ∃ row, db.sagas.find saga.orderId = some row ∧ row.tenantId = saga.tenantId ∧ row.version = saga.version ∧
      result.2 = { db with sagas := db.sagas.put { row with
        state := saga.state, lastEventId := saga.lastEventId, version := row.version + 1, updatedAt := now } } := by
  unfold transition at run
  split at run
  · rename_i row found
    simp only [Option.filter_eq_some_iff, decide_eq_true_eq] at found
    cases Except.ok.inj run
    exact ⟨row, found.1, found.2.1, found.2.2, rfl⟩
  · exact absurd run Except.throw_ok

/-- The guard of a transition asks for the tenant and the version only. -/
theorem transition_runs {db : Db} {saga row : OrderSaga} (stands : db.sagas.find saga.orderId = some row)
    (tenant : row.tenantId = saga.tenantId) (version : row.version = saga.version) (now : Nat) :
    ∃ result, db.transition saga now = .ok result := by
  have found : ((db.sagas.find saga.orderId).filter fun row =>
      row.tenantId = saga.tenantId ∧ row.version = saga.version) = some row := by
    rw [stands, Option.filter_some, if_pos (decide_eq_true ⟨tenant, version⟩)]
  unfold transition
  rw [found]
  exact ⟨_, rfl⟩

theorem recordReconcileAttempt_ok {db db' : Db} {orderId : Uuid} {expectedState : SagaState} {now : Nat} :
    db.recordReconcileAttempt orderId expectedState now = .ok db' ↔
      ∃ row, db.sagas.find orderId = some row ∧ row.state = expectedState ∧
        { db with sagas := db.sagas.put { row with attempts := row.attempts + 1, updatedAt := now } } = db' := by
  unfold recordReconcileAttempt
  split
  · rename_i row found
    simp only [Option.filter_eq_some_iff, decide_eq_true_eq] at found
    rw [Except.pure_ok]
    refine ⟨fun run => ⟨row, found.1, found.2, run⟩, ?_⟩
    rintro ⟨row', found', -, run⟩
    cases Option.some.inj (found.1.symm.trans found')
    exact run
  · rename_i absent
    simp only [Option.filter_eq_none_iff, decide_eq_true_eq] at absent
    refine ⟨fun run => absurd run Except.throw_ok, ?_⟩
    rintro ⟨row, found, same, -⟩
    exact absurd same (absent row found)

/-- A reset writes the attempts of one non-terminal saga, or nothing. -/
theorem resetReconcileAttempts_cases (db : Db) (tenantId orderId : Uuid) :
    (∃ row, db.sagas.find orderId = some row ∧ row.state ∈ nonTerminalSagaStates ∧
      (db.resetReconcileAttempts tenantId orderId).2 = { db with sagas := db.sagas.put { row with attempts := 0 } }) ∨
    (db.resetReconcileAttempts tenantId orderId).2 = db := by
  unfold resetReconcileAttempts
  split
  · rename_i row found
    simp only [Option.filter_eq_some_iff, decide_eq_true_eq] at found
    exact Or.inl ⟨row, found.1, found.2.2, rfl⟩
  · exact Or.inr rfl

theorem runOnce_ok {db db' : Db} {eventId : Uuid} {work : Db → Except OrderError Db} :
    db.runOnce eventId work = .ok db' ↔ eventId ∈ db.processedEvents ∧ db = db' ∨
      eventId ∉ db.processedEvents ∧ work { db with processedEvents := eventId :: db.processedEvents } = .ok db' := by
  unfold runOnce
  by_cases recorded : eventId ∈ db.processedEvents
  · rw [if_pos recorded, Except.pure_ok]
    exact ⟨fun run => Or.inl ⟨recorded, run⟩, fun run => (run.resolve_right fun fresh => fresh.1 recorded).2⟩
  · rw [if_neg recorded]
    exact ⟨fun run => Or.inr ⟨recorded, run⟩, fun run => (run.resolve_left fun old => recorded old.1).2⟩

end Db

end FoodDelivery.OrderService
