import Mathlib.Data.Nat.Basic
import FoodDelivery.Lib.History
import FoodDelivery.Order.Handlers

namespace FoodDelivery.OrderService

open Messaging OptimisticLock

/-- The data a `PlaceOrderHandler.execute` call brings to its transaction:
the command, what the catalog and the settings answered and the identifiers
it drew. -/
structure Placement where
  command : PlaceOrderCommand
  menuItems : List MenuItem
  pricing : OrderPricingInput
  orderId : Uuid
  correlationId : Uuid

inductive ReplySource
  | inventory
  | payment
  deriving DecidableEq, Repr

/-- The transactions of the order service. -/
inductive Transaction
  | placeOrder (placement : Placement) (now : Nat) (stamp : Stamp)
  | reply (source : ReplySource) (envelope : EventEnvelopeHeaders) (orderId : Uuid) (now : Nat) (stamp : Stamp)
  | cancelOrder (command : OrderCommand)
  | confirmOrder (command : OrderCommand)
  | recoverOne (candidate : StrandedSagaCandidate) (maxAttempts : Nat) (randomUuid : Uuid) (now : Nat) (stamp : Stamp)
  | resetReconcileAttempts (tenantId orderId : Uuid)

def Placement.execute (placement : Placement) (now : Nat) (stamp : Stamp) (db : Db) : Except OrderError Db := do
  assertValidCommand placement.command
  let order ← placement.command.pendingOrder placement.menuItems placement.pricing placement.orderId
  placement.command.claimAndInsert order placement.correlationId now stamp db

def ReplySource.execute : ReplySource → Reads → EventEnvelopeHeaders → Uuid → Nat → Stamp → Db → Except OrderError Db
  | .inventory => HandleInventoryReply.execute
  | .payment => HandlePaymentReply.execute

/-- What a transaction commits, given what its SELECTs saw. -/
def Transaction.execute (reads : Reads) : Transaction → Db → Except OrderError Db
  | .placeOrder placement now stamp, db => placement.execute now stamp db
  | .reply source envelope orderId now stamp, db => source.execute reads envelope orderId now stamp db
  | .cancelOrder command, db => (·.2) <$> OrderService.cancelOrder reads.order command db
  | .confirmOrder command, db => (·.2) <$> OrderService.confirmOrder reads.order command db
  | .recoverOne candidate maxAttempts randomUuid now stamp, db =>
    pure (OrderService.recoverOne reads candidate maxAttempts randomUuid now stamp db)
  | .resetReconcileAttempts tenantId orderId, db => pure (db.resetReconcileAttempts tenantId orderId).2

/-- The saga state in which a reply is acted upon. -/
def ReplySource.expects : ReplySource → EventType → Option SagaState
  | .inventory, .stockReserved => some .started
  | .inventory, .stockReservationFailed => some .started
  | .inventory, .stockReleased => some .compensating
  | .payment, .paymentSucceeded => some .stockReserved
  | .payment, .paymentFailed => some .stockReserved
  | _, _ => none

/-- What a reply makes of an order and its saga: the reply's source and type,
the saga's state, the order's new status and the saga's new state, with the
entry that announces the move. -/
inductive Reaction (order : Order) (correlationId : Uuid) :
    ReplySource → EventType → SagaState → OrderStatus → SagaState → OutboxCommandEntry → Prop
  | reserve : order.status = .pending → Reaction order correlationId .inventory .stockReserved .started
      .reserved .stockReserved (chargePaymentCommand order.id order.totalCents correlationId)
  | reject : .cancelled ∈ order.status.allowedTransitions →
      Reaction order correlationId .inventory .stockReservationFailed .started
      .cancelled .cancelled (orderCancelledEvent order.id order.userId order.totalCents correlationId)
  | compensate : .cancelled ∈ order.status.allowedTransitions →
      Reaction order correlationId .inventory .stockReleased .compensating
      .cancelled .cancelled (orderCancelledEvent order.id order.userId order.totalCents correlationId)
  | confirm : order.status = .reserved → Reaction order correlationId .payment .paymentSucceeded .stockReserved
      .confirmed .completed
      (orderConfirmedEvent order.id order.userId order.restaurantId order.totalCents correlationId)

/-- Everything a transaction can do to the database it commits on. -/
inductive Effect (reads : Reads) (db : Db) : Transaction → Db → Prop
  | placed {placement now stamp order} :
      placement.command.pendingOrder placement.menuItems placement.pricing placement.orderId = .ok order →
      db.idempotencyKeys.find placement.command.claim = none → db.orders.find order.id = none →
      db.sagas.find order.id = none →
      Effect reads db (.placeOrder placement now stamp) {
        orders := db.orders.put order
        sagas := db.sagas.put (OrderSaga.start order.id placement.command.tenantId placement.correlationId now)
        idempotencyKeys := db.idempotencyKeys.put { claim := placement.command.claim, orderId := order.id }
        outbox := db.outbox ++ [(reserveStockCommand order.id order.itemQtys placement.correlationId).toRow
          placement.command.tenantId stamp]
        processedEvents := db.processedEvents }
  | duplicate {source envelope orderId now stamp} : envelope.eventId ∈ db.processedEvents →
      Effect reads db (.reply source envelope orderId now stamp) db
  | ignored {source envelope orderId now stamp saga} : envelope.eventId ∉ db.processedEvents →
      reads.saga.findByOrderId envelope.tenantId orderId = some saga →
      source.expects envelope.eventType ≠ some saga.state →
      Effect reads db (.reply source envelope orderId now stamp)
        { db with processedEvents := envelope.eventId :: db.processedEvents }
  | reacted {source envelope orderId now stamp order saga status state entry} :
      envelope.eventId ∉ db.processedEvents →
      db.orders.find orderId = some order → order.tenantId = envelope.tenantId →
      db.sagas.find orderId = some saga → saga.tenantId = envelope.tenantId →
      Reaction order envelope.correlationId source envelope.eventType saga.state status state entry →
      Effect reads db (.reply source envelope orderId now stamp) { db with
        orders := db.orders.put { order with status := status, version := order.version + 1 }
        sagas := db.sagas.put { saga with
          state := state, lastEventId := some envelope.eventId, version := saga.version + 1, updatedAt := now }
        outbox := db.outbox ++ [entry.toRow envelope.tenantId stamp]
        processedEvents := envelope.eventId :: db.processedEvents }
  | compensating {envelope orderId now stamp saga} : envelope.eventType = .paymentFailed →
      envelope.eventId ∉ db.processedEvents →
      db.sagas.find orderId = some saga → saga.tenantId = envelope.tenantId → saga.state = .stockReserved →
      Effect reads db (.reply .payment envelope orderId now stamp) { db with
        sagas := db.sagas.put { saga with
          state := .compensating, lastEventId := some envelope.eventId, version := saga.version + 1, updatedAt := now }
        outbox := db.outbox ++ [(releaseStockCommand orderId envelope.correlationId).toRow envelope.tenantId stamp]
        processedEvents := envelope.eventId :: db.processedEvents }
  | cancelled {command order} : db.orders.find command.orderId = some order →
      .cancelled ∈ order.status.allowedTransitions →
      Effect reads db (.cancelOrder command) { db with
        orders := db.orders.put { order with status := .cancelled, version := order.version + 1 } }
  | confirmed {command order} : db.orders.find command.orderId = some order →
      .confirmed ∈ order.status.allowedTransitions →
      Effect reads db (.confirmOrder command) { db with
        orders := db.orders.put { order with status := .confirmed, version := order.version + 1 } }
  | skipped {candidate maxAttempts randomUuid now stamp} :
      Effect reads db (.recoverOne candidate maxAttempts randomUuid now stamp) db
  | redriven {candidate maxAttempts randomUuid now stamp read order saga command} :
      reads.saga.findByOrderId candidate.tenantId candidate.orderId = some read →
      reads.order.findById candidate.tenantId candidate.orderId = some order →
      decideReconcileAction read order maxAttempts randomUuid = .ok (.redrive command) →
      db.sagas.find candidate.orderId = some saga → saga.state = read.state →
      Effect reads db (.recoverOne candidate maxAttempts randomUuid now stamp) { db with
        sagas := db.sagas.put { saga with attempts := saga.attempts + 1, updatedAt := now }
        outbox := db.outbox ++ [command.toRow candidate.tenantId stamp] }
  | reset {tenantId orderId saga} : db.sagas.find orderId = some saga → saga.state ∈ Db.nonTerminalSagaStates →
      Effect reads db (.resetReconcileAttempts tenantId orderId)
        { db with sagas := db.sagas.put { saga with attempts := 0 } }
  | notReset {tenantId orderId} : Effect reads db (.resetReconcileAttempts tenantId orderId) db

/-- The version of an order protects its whole row, and only the status
next to it is ever written. -/
def orderLock : Versioned Order Nat Order Order where
  version := (·.version)
  core := id
  fixed order := { order with status := .pending, version := 0 }

/-- The version of a saga leaves out what the reaper counts. -/
def sagaLock : Versioned OrderSaga Nat OrderSaga (Uuid × Uuid × Option Uuid) where
  version := (·.version)
  core saga := { saga with attempts := 0, updatedAt := 0 }
  fixed saga := (saga.orderId, saga.tenantId, saga.correlationId)

structure Db.Later (old new : Db) : Prop where
  orders : orderLock.Later old.orders new.orders
  sagas : sagaLock.Later old.sagas new.sagas

theorem Db.Later.refl (db : Db) : db.Later db := ⟨.refl _, .refl _⟩

theorem Db.Later.trans {a b c : Db} (first : a.Later b) (last : b.Later c) : a.Later c :=
  ⟨first.orders.trans last.orders, first.sagas.trans last.sagas⟩

/-- The row an update by a stale order hits is the one that was read. -/
theorem stale_updateStatus {read db : Db} {id : Uuid} {order : Order} {status : OrderStatus} {result : Order × Db}
    (later : read.Later db) (atRead : read.orders.find id = some order)
    (run : db.updateStatus { order with status } = .ok result) :
    db.orders.find id = some order ∧
      result.2 = { db with orders := db.orders.put { order with status, version := order.version + 1 } } := by
  obtain ⟨row, stored, unmoved, saved, same⟩ := Db.updateStatus_ok run
  have atId : order.id = id := read.orders.keyed id order atRead
  subst atId
  have equal : order = row := later.orders.guard atRead stored unmoved
  subst equal
  exact ⟨stored, by rw [same, saved]⟩

theorem stale_transition {read db : Db} {id : Uuid} {saga : OrderSaga} {state : SagaState} {event : Uuid} {now : Nat}
    {result : OrderSaga × Db} (later : read.Later db) (atRead : read.sagas.find id = some saga)
    (run : db.transition { saga with state, lastEventId := some event } now = .ok result) :
    ∃ row, db.sagas.find id = some row ∧ row.state = saga.state ∧ row.tenantId = saga.tenantId ∧
      result.2 = { db with sagas := db.sagas.put { row with
        state, lastEventId := some event, version := row.version + 1, updatedAt := now } } := by
  obtain ⟨row, stored, -, unmoved, same⟩ := Db.transition_ok run
  have atId : saga.orderId = id := read.sagas.keyed id saga atRead
  subst atId
  have core : sagaLock.core saga = sagaLock.core row := later.sagas.guard atRead stored unmoved
  exact ⟨row, stored, (congrArg OrderSaga.state core).symm, (congrArg OrderSaga.tenantId core).symm, same⟩

/-- The common part of the handlers: the order and its saga move together,
and the row announcing it is appended. -/
theorem advance_ok {reads : Reads} {db db' : Db} {id event tenantId : Uuid} {order : Order} {saga : OrderSaga}
    {status : OrderStatus} {state : SagaState} {entry : OutboxCommandEntry} {now : Nat} {stamp : Stamp}
    (laterSaga : reads.saga.Later db) (laterOrder : reads.order.Later db)
    (sagaRead : reads.saga.sagas.find id = some saga) (orderRead : reads.order.orders.find id = some order)
    (run : (do
      let next ← order.transitionTo status
      let updated ← db.updateStatus next
      let moved ← saga.transition state event
      let transitioned ← updated.2.transition moved now
      return transitioned.2.append entry tenantId stamp) = .ok db') :
    status ∈ order.status.allowedTransitions ∧ db.orders.find id = some order ∧
      ∃ row, db.sagas.find id = some row ∧ row.state = saga.state ∧ row.tenantId = saga.tenantId ∧
        db' = { db with
          orders := db.orders.put { order with status := status, version := order.version + 1 }
          sagas := db.sagas.put { row with
            state := state, lastEventId := some event, version := row.version + 1, updatedAt := now }
          outbox := db.outbox ++ [entry.toRow tenantId stamp] } := by
  simp only [Except.bind_ok, Except.pure_ok] at run
  obtain ⟨next, advance, updated, update, moved, move, transitioned, transit, result⟩ := run
  obtain ⟨allowed, rfl⟩ := Order.transitionTo_ok.mp advance
  obtain ⟨-, rfl⟩ := OrderSaga.transition_ok.mp move
  obtain ⟨stored, same⟩ := stale_updateStatus laterOrder orderRead update
  rw [same] at transit
  have later : reads.saga.Later { db with
      orders := db.orders.put { order with status := status, version := order.version + 1 } } := by
    exact ⟨laterSaga.orders.trans (.write stored rfl (.moved (Nat.lt_succ_self _) rfl)), laterSaga.sagas⟩
  obtain ⟨row, atRow, sameState, sameTenant, same'⟩ := stale_transition later sagaRead transit
  refine ⟨allowed, stored, row, atRow, sameState, sameTenant, ?_⟩
  rw [← result, same']
  rfl

theorem Placement.effect {reads : Reads} {db db' : Db} {placement : Placement} {now : Nat} {stamp : Stamp}
    (run : placement.execute now stamp db = .ok db') : Effect reads db (.placeOrder placement now stamp) db' := by
  simp only [Placement.execute, Except.bind_ok] at run
  obtain ⟨-, -, order, pending, claim⟩ := run
  obtain ⟨unclaimed, newOrder, newSaga, rfl⟩ := PlaceOrderCommand.claimAndInsert_ok claim
  exact .placed pending unclaimed newOrder newSaga

theorem loadOrder_ok {db : Db} {tenantId orderId : Uuid} {order : Order} :
    loadOrder db tenantId orderId = .ok order ↔ db.orders.find orderId = some order ∧ order.tenantId = tenantId := by
  unfold loadOrder
  rw [← Db.findById_some]
  split
  · rename_i found atId
    rw [Except.pure_ok, atId, Option.some.injEq]
  · rename_i absent
    rw [absent]
    exact ⟨fun run => absurd run Except.throw_ok, fun run => by cases run⟩

structure Reads.Later (reads : Reads) (db : Db) : Prop where
  saga : reads.saga.Later db
  order : reads.order.Later db

/-- The event id is written before the work, so the work's reads are as
old for the database that holds it. -/
theorem Reads.Later.processed {reads : Reads} {db : Db} (later : reads.Later db) (processedEvents : List Uuid) :
    reads.Later { db with processedEvents } :=
  ⟨⟨later.saga.orders, later.saga.sagas⟩, ⟨later.order.orders, later.order.sagas⟩⟩

theorem OrderStatus.reserved_allowed {status : OrderStatus} (allowed : .reserved ∈ status.allowedTransitions) :
    status = .pending := by
  cases status <;> simp_all [OrderStatus.allowedTransitions]

theorem OrderStatus.confirmed_allowed {status : OrderStatus} (allowed : .confirmed ∈ status.allowedTransitions) :
    status = .reserved := by
  cases status <;> simp_all [OrderStatus.allowedTransitions]

theorem OrderStatus.cancelled_allowed {status : OrderStatus} (allowed : .cancelled ∈ status.allowedTransitions) :
    status = .pending ∨ status = .reserved := by
  cases status <;> simp_all [OrderStatus.allowedTransitions]

theorem advance_effect {reads : Reads} {db db' : Db} {source : ReplySource} {envelope : EventEnvelopeHeaders}
    {orderId : Uuid} {order : Order} {saga : OrderSaga} {status : OrderStatus} {state : SagaState}
    {entry : OutboxCommandEntry} {now : Nat} {stamp : Stamp} (later : reads.Later db)
    (new : envelope.eventId ∉ db.processedEvents)
    (sagaRead : reads.saga.findByOrderId envelope.tenantId orderId = some saga)
    (orderRead : loadOrder reads.order envelope.tenantId orderId = .ok order)
    (reaction : order.id = orderId → status ∈ order.status.allowedTransitions →
      Reaction order envelope.correlationId source envelope.eventType saga.state status state entry)
    (run : (do
      let next ← order.transitionTo status
      let updated ← Db.updateStatus { db with processedEvents := envelope.eventId :: db.processedEvents } next
      let moved ← saga.transition state envelope.eventId
      let transitioned ← updated.2.transition moved now
      return transitioned.2.append entry envelope.tenantId stamp) = .ok db') :
    Effect reads db (.reply source envelope orderId now stamp) db' := by
  obtain ⟨sagaStood, sagaTenant⟩ := Db.findByOrderId_some.mp sagaRead
  obtain ⟨orderStood, orderTenant⟩ := loadOrder_ok.mp orderRead
  have later := later.processed (envelope.eventId :: db.processedEvents)
  obtain ⟨allowed, orderStands, row, sagaStands, sameState, sameTenant, rfl⟩ :=
    advance_ok later.saga later.order sagaStood orderStood run
  have atId : order.id = orderId := db.orders.keyed orderId order orderStands
  exact .reacted new orderStands orderTenant sagaStands (sameTenant.trans sagaTenant)
    (sameState ▸ reaction atId allowed)

theorem HandleInventoryReply.effect {reads : Reads} {db db' : Db} {envelope : EventEnvelopeHeaders} {orderId : Uuid}
    {now : Nat} {stamp : Stamp} (later : reads.Later db)
    (run : HandleInventoryReply.execute reads envelope orderId now stamp db = .ok db') :
    Effect reads db (.reply .inventory envelope orderId now stamp) db' := by
  rcases Db.runOnce_ok.mp run with ⟨duplicate, rfl⟩ | ⟨new, work⟩
  · exact .duplicate duplicate
  · unfold HandleInventoryReply.apply at work
    split at work
    · exact absurd work Except.throw_ok
    rename_i saga sagaRead
    have skip (expected : Option SagaState) (expects : ReplySource.inventory.expects envelope.eventType = expected)
        (other : expected ≠ some saga.state) :
        Effect reads db (.reply .inventory envelope orderId now stamp)
          { db with processedEvents := envelope.eventId :: db.processedEvents } :=
      .ignored new sagaRead (expects ▸ other)
    split at work <;> rename_i type
    · split at work <;> rename_i state
      · cases Except.ok.inj work
        exact skip _ (by rw [type]; rfl) fun same => state (Option.some.inj same).symm
      · obtain ⟨order, load, run⟩ := Except.bind_ok.mp work
        refine advance_effect later new sagaRead load (fun atId allowed => ?_) run
        rw [type, not_not.mp state, ← atId]
        exact .reserve (OrderStatus.reserved_allowed allowed)
    · split at work <;> rename_i state
      · cases Except.ok.inj work
        exact skip _ (by rw [type]; rfl) fun same => state (Option.some.inj same).symm
      · obtain ⟨order, load, run⟩ := Except.bind_ok.mp work
        refine advance_effect later new sagaRead load (fun _ allowed => ?_) run
        rw [type, not_not.mp state]
        exact .reject allowed
    · split at work <;> rename_i state
      · cases Except.ok.inj work
        exact skip _ (by rw [type]; rfl) fun same => state (Option.some.inj same).symm
      · obtain ⟨order, load, run⟩ := Except.bind_ok.mp work
        refine advance_effect later new sagaRead load (fun _ allowed => ?_) run
        rw [type, not_not.mp state]
        exact .compensate allowed
    · cases Except.ok.inj work
      refine skip none ?_ (Option.some_ne_none _).symm
      rename_i noReserved noFailed noReleased
      unfold ReplySource.expects
      split <;> simp_all

theorem HandlePaymentReply.effect {reads : Reads} {db db' : Db} {envelope : EventEnvelopeHeaders} {orderId : Uuid}
    {now : Nat} {stamp : Stamp} (later : reads.Later db)
    (run : HandlePaymentReply.execute reads envelope orderId now stamp db = .ok db') :
    Effect reads db (.reply .payment envelope orderId now stamp) db' := by
  rcases Db.runOnce_ok.mp run with ⟨duplicate, rfl⟩ | ⟨new, work⟩
  · exact .duplicate duplicate
  · unfold HandlePaymentReply.apply at work
    split at work
    · exact absurd work Except.throw_ok
    rename_i saga sagaRead
    split at work <;> rename_i state
    · cases Except.ok.inj work
      refine .ignored new sagaRead ?_
      unfold ReplySource.expects
      split <;> simp_all [eq_comm]
    rw [not_not] at state
    split at work <;> rename_i type
    · obtain ⟨order, load, run⟩ := Except.bind_ok.mp work
      refine advance_effect later new sagaRead load (fun atId allowed => ?_) run
      rw [type, state, ← atId]
      exact .confirm (OrderStatus.confirmed_allowed allowed)
    · simp only [Except.bind_ok, Except.pure_ok] at work
      obtain ⟨moved, move, transitioned, transit, rfl⟩ := work
      obtain ⟨-, rfl⟩ := OrderSaga.transition_ok.mp move
      obtain ⟨sagaStood, tenant⟩ := Db.findByOrderId_some.mp sagaRead
      have later := later.processed (envelope.eventId :: db.processedEvents)
      obtain ⟨row, stands, sameState, sameTenant, same⟩ := stale_transition later.saga sagaStood transit
      rw [same]
      exact .compensating type new stands (sameTenant.trans tenant) (sameState.trans state)
    · cases Except.ok.inj work
      refine .ignored new sagaRead ?_
      unfold ReplySource.expects
      split <;> simp_all

theorem cancelOrder_effect {reads : Reads} {db : Db} {command : OrderCommand} {result : Order × Db}
    (later : reads.Later db) (run : cancelOrder reads.order command db = .ok result) :
    Effect reads db (.cancelOrder command) result.2 := by
  simp only [OrderService.cancelOrder, Except.bind_ok] at run
  obtain ⟨order, load, -, -, next, advance, update⟩ := run
  obtain ⟨allowed, rfl⟩ := Order.transitionTo_ok.mp advance
  obtain ⟨stands, same⟩ := stale_updateStatus later.order (loadOrder_ok.mp load).1 update
  rw [same]
  exact .cancelled stands allowed

theorem confirmOrder_effect {reads : Reads} {db : Db} {command : OrderCommand} {result : Order × Db}
    (later : reads.Later db) (run : confirmOrder reads.order command db = .ok result) :
    Effect reads db (.confirmOrder command) result.2 := by
  simp only [OrderService.confirmOrder, Except.bind_ok] at run
  obtain ⟨order, load, -, -, next, advance, update⟩ := run
  obtain ⟨allowed, rfl⟩ := Order.transitionTo_ok.mp advance
  obtain ⟨stands, same⟩ := stale_updateStatus later.order (loadOrder_ok.mp load).1 update
  rw [same]
  exact .confirmed stands allowed

theorem recoverOne_effect (reads : Reads) (db : Db) (candidate : StrandedSagaCandidate) (maxAttempts : Nat)
    (randomUuid : Uuid) (now : Nat) (stamp : Stamp) :
    Effect reads db (.recoverOne candidate maxAttempts randomUuid now stamp)
      (recoverOne reads candidate maxAttempts randomUuid now stamp db) := by
  unfold OrderService.recoverOne
  split
  · exact .skipped
  split
  · exact .skipped
  rename_i saga sagaRead _ order orderRead
  have outcome := recoverRead_recovers maxAttempts candidate saga order randomUuid now stamp db
  generalize recoverRead maxAttempts candidate saga order randomUuid now stamp db = result at outcome ⊢
  obtain ⟨recovery, db'⟩ := result
  cases outcome with
  | escalated => exact .skipped
  | failed => exact .skipped
  | redriven decided stands sameState => exact .redriven sagaRead orderRead decided stands sameState

/-- A committed transaction has one of the effects, whatever its reads were. -/
theorem Transaction.effect {reads : Reads} {db db' : Db} {act : Transaction} (later : reads.Later db)
    (run : act.execute reads db = .ok db') : Effect reads db act db' := by
  cases act with
  | placeOrder placement now stamp => exact placement.effect run
  | reply source envelope orderId now stamp =>
    cases source with
    | inventory => exact HandleInventoryReply.effect later run
    | payment => exact HandlePaymentReply.effect later run
  | cancelOrder command =>
    obtain ⟨result, done, rfl⟩ := Except.map_eq_ok.mp run
    exact cancelOrder_effect later done
  | confirmOrder command =>
    obtain ⟨result, done, rfl⟩ := Except.map_eq_ok.mp run
    exact confirmOrder_effect later done
  | recoverOne candidate maxAttempts randomUuid now stamp =>
    cases Except.ok.inj run
    exact recoverOne_effect reads db candidate maxAttempts randomUuid now stamp
  | resetReconcileAttempts tenantId orderId =>
    cases Except.ok.inj run
    rcases db.resetReconcileAttempts_cases tenantId orderId with ⟨row, stands, open_, same⟩ | same
    · rw [same]
      exact .reset stands open_
    · rw [same]
      exact .notReset

/-- No transaction loses a row or changes one behind its version. -/
theorem Effect.later {reads : Reads} {db db' : Db} {act : Transaction} (effect : Effect reads db act db') :
    db.Later db' := by
  cases effect with
  | placed _ _ newOrder newSaga => exact ⟨.insert newOrder, .insert newSaga⟩
  | duplicate => exact .refl db
  | ignored => exact ⟨.refl _, .refl _⟩
  | reacted _ orderStands _ sagaStands =>
    exact ⟨.write orderStands rfl (.moved (Nat.lt_succ_self _) rfl),
      .write sagaStands rfl (.moved (Nat.lt_succ_self _) rfl)⟩
  | compensating _ _ stands =>
    exact ⟨.refl _, .write stands rfl (.moved (Nat.lt_succ_self _) rfl)⟩
  | cancelled stands =>
    exact ⟨.write stands rfl (.moved (Nat.lt_succ_self _) rfl), .refl _⟩
  | confirmed stands =>
    exact ⟨.write stands rfl (.moved (Nat.lt_succ_self _) rfl), .refl _⟩
  | skipped => exact .refl db
  | redriven _ _ _ stands =>
    exact ⟨.refl _, .write stands rfl ⟨rfl, le_rfl, fun _ => rfl⟩⟩
  | reset stands => exact ⟨.refl _, .write stands rfl ⟨rfl, le_rfl, fun _ => rfl⟩⟩
  | notReset => exact .refl db

open CommitLog

/-- A commit whose reads each saw the database as it was at some moment so far. -/
def commits (seen : Db → Prop) (act : Transaction) (db db' : Db) : Prop :=
  ∃ reads : Reads, seen reads.saga ∧ seen reads.order ∧ act.execute reads db = .ok db'

/-- The runs of the order service's database from the empty one. -/
abbrev Run : List (Commit Db Transaction) → Db → Prop := History (· = Db.empty) commits

variable {log : List (Commit Db Transaction)} {db db' : Db} {act : Transaction}

theorem Run.later (run : Run log db) : ∀ read, Seen log db read → read.Later db := by
  refine History.seen_le run Db.Later.refl (fun _ _ _ => Db.Later.trans) ?_
  rintro log db act db' - behind ⟨reads, sagaSeen, orderSeen, execution⟩
  exact (Transaction.effect ⟨behind _ sagaSeen, behind _ orderSeen⟩ execution).later

/-- What a run commits next is one of the effects. -/
theorem Run.effect (run : Run log db) (next : commits (Seen log db) act db db') :
    ∃ reads : Reads, reads.Later db ∧ Effect reads db act db' := by
  obtain ⟨reads, sagaSeen, orderSeen, execution⟩ := next
  have later : reads.Later db := ⟨run.later _ sagaSeen, run.later _ orderSeen⟩
  exact ⟨reads, later, Transaction.effect later execution⟩

/-- What every effect preserves holds in every state a run reaches. -/
theorem Run.invariant {I : Db → Prop} (run : Run log db) (start : I Db.empty)
    (step : ∀ reads db act db', Effect reads db act db' → I db → I db') : I db := by
  induction run with
  | start first => exact first ▸ start
  | commit previous next ih =>
    obtain ⟨reads, -, effect⟩ := Run.effect previous next
    exact step _ _ _ _ effect ih

/-- A transaction alone on the database, with nothing done when it fails. -/
def Transaction.apply (act : Transaction) (db : Db) : Db :=
  match act.execute { saga := db, order := db } db with
  | .ok db' => db'
  | .error _ => db

/-- Executes transactions one after the other, the last of the list first,
each reading the database it commits on. -/
def replay : List Transaction → Except OrderError (List (Commit Db Transaction) × Db)
  | [] => pure ([], Db.empty)
  | act :: earlier => do
    let past ← replay earlier
    let db ← act.execute { saga := past.2, order := past.2 } past.2
    return ({ before := past.2, act, after := db } :: past.1, db)

theorem replay_run {acts : List Transaction} {result : List (Commit Db Transaction) × Db}
    (done : replay acts = .ok result) : Run result.1 result.2 := by
  induction acts generalizing result with
  | nil =>
    cases Except.ok.inj done
    exact .start rfl
  | cons act earlier ih =>
    simp only [replay, Except.bind_ok, Except.pure_ok] at done
    obtain ⟨past, replayed, db, execution, rfl⟩ := done
    exact .commit (ih replayed) ⟨_, .current, .current, execution⟩

/-- What a replay evaluates to is true of a run. -/
theorem replay_exists {β : Type} (acts : List Transaction) (view : Db → β) (b : β)
    (done : (replay acts).map (fun result => view result.2) = .ok b) : ∃ log db, Run log db ∧ view db = b := by
  obtain ⟨result, replayed, same⟩ := Except.map_eq_ok.mp done
  exact ⟨result.1, result.2, replay_run replayed, same⟩

/-- An order of two dishes, for runs on fixed inputs. -/
def Placement.sample : Placement where
  command := { tenantId := "tenant", userId := "user", idempotencyKey := "key", items := [⟨"dish", 2⟩] }
  menuItems := [{ itemId := "dish", restaurantId := "restaurant", priceCents := 500, isAvailable := true }]
  pricing := { deliveryFeeCents := 1500, vatRateBps := 1000, discountCents := 0 }
  orderId := "order"
  correlationId := "correlation"

def OrderCommand.sample : OrderCommand where
  tenantId := "tenant"
  userId := "user"
  roles := []
  orderId := "order"

/-- A reply about that order. -/
def replySample (source : ReplySource) (eventId : Uuid) (eventType : EventType) : Transaction :=
  .reply source { eventId, eventType, tenantId := "tenant", correlationId := "correlation" } "order" 1
    { id := "after-" ++ eventId, correlationId := "correlation" }

def placeSample : Transaction := .placeOrder .sample 0 { id := "reserve", correlationId := "correlation" }

end FoodDelivery.OrderService
