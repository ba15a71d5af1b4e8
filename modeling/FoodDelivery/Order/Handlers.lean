import FoodDelivery.Order.Store

namespace FoodDelivery.OrderService

open Messaging

structure PlaceOrderCommand where
  tenantId : Uuid
  userId : String
  idempotencyKey : String
  items : List ItemQty
  deriving DecidableEq, Repr

/-- An item of the catalog's answer to `validateItems`. -/
structure MenuItem where
  itemId : Uuid
  restaurantId : Uuid
  priceCents : Int
  isAvailable : Bool
  deriving DecidableEq, Repr

def PlaceOrderCommand.claim (command : PlaceOrderCommand) : IdempotencyKey where
  tenantId := command.tenantId
  userId := command.userId
  key := command.idempotencyKey

def assertValidCommand (command : PlaceOrderCommand) : Except OrderError Unit :=
  if command.items.isEmpty then throw (.invalidOrderRequest "order must contain at least one item")
  else match command.items.find? (·.qty ≤ 0) with
    | some item =>
      throw (.invalidOrderRequest ("quantity for item \"" ++ item.itemId ++ "\" must be a positive integer"))
    | none => pure ()

/-- The catalog's entry an ordered item resolves to: the last of its id, as in
a `Map` built from the answer. -/
def resolveItem (menuItems : List MenuItem) (item : ItemQty) : Except OrderError (Uuid × OrderItem) :=
  match menuItems.reverse.find? (·.itemId = item.itemId) with
  | none => throw (.menuValidation ("menu item \"" ++ item.itemId ++ "\" not found for this tenant"))
  | some menuItem =>
    if menuItem.isAvailable then do
      let orderItem ← OrderItem.create item.itemId item.qty menuItem.priceCents
      return (menuItem.restaurantId, orderItem)
    else throw (.menuValidation ("menu item \"" ++ item.itemId ++ "\" is not available"))

def buildOrderItems (command : PlaceOrderCommand) (menuItems : List MenuItem) :
    Except OrderError (List OrderItem × Uuid) := do
  let resolved ← command.items.mapM (resolveItem menuItems)
  let restaurantId := ((resolved.map (·.1)).head?).getD ""
  if ∃ entry ∈ resolved, entry.1 ≠ restaurantId then
    throw (.invalidOrderRequest "an order cannot span multiple restaurants")
  else return (resolved.map (·.2), restaurantId)

/-- The order a call is about to insert, from the catalog's and the settings'
answers and a fresh id. -/
def PlaceOrderCommand.pendingOrder (command : PlaceOrderCommand) (menuItems : List MenuItem)
    (pricing : OrderPricingInput) (orderId : Uuid) : Except OrderError Order := do
  let built ← buildOrderItems command menuItems
  Order.create orderId command.tenantId command.userId built.2 built.1 pricing

/-- The transaction of `PlaceOrderHandler.execute`. -/
def PlaceOrderCommand.claimAndInsert (command : PlaceOrderCommand) (pendingOrder : Order) (correlationId : Uuid)
    (now : Nat) (stamp : Stamp) (db : Db) : Except OrderError Db := do
  let db ← db.save command.claim pendingOrder.id
  let db ← db.insertOrder pendingOrder
  let db ← db.insertSaga (OrderSaga.start pendingOrder.id command.tenantId correlationId now)
  return db.append (reserveStockCommand pendingOrder.id pendingOrder.itemQtys correlationId) command.tenantId stamp

/-- The transaction runs when neither the key nor the order id is taken. -/
theorem PlaceOrderCommand.claimAndInsert_ok {command : PlaceOrderCommand} {order : Order} {correlationId : Uuid}
    {now : Nat} {stamp : Stamp} {db db' : Db} (run : command.claimAndInsert order correlationId now stamp db = .ok db') :
    db.idempotencyKeys.find command.claim = none ∧ db.orders.find order.id = none ∧ db.sagas.find order.id = none ∧
      db' = {
        orders := db.orders.put order
        sagas := db.sagas.put (OrderSaga.start order.id command.tenantId correlationId now)
        idempotencyKeys := db.idempotencyKeys.put { claim := command.claim, orderId := order.id }
        outbox := db.outbox ++ [(reserveStockCommand order.id order.itemQtys correlationId).toRow command.tenantId stamp]
        processedEvents := db.processedEvents } := by
  simp only [PlaceOrderCommand.claimAndInsert, Except.bind_ok, Except.pure_ok, Db.save_ok, Db.insertOrder_ok,
    Db.insertSaga_ok] at run
  obtain ⟨_, ⟨unclaimed, rfl⟩, _, ⟨newOrder, rfl⟩, _, ⟨newSaga, rfl⟩, rfl⟩ := run
  exact ⟨unclaimed, newOrder, newSaga, rfl⟩

theorem PlaceOrderCommand.pendingOrder_ok {command : PlaceOrderCommand} {menuItems : List MenuItem}
    {pricing : OrderPricingInput} {orderId : Uuid} {order : Order}
    (run : command.pendingOrder menuItems pricing orderId = .ok order) :
    order.id = orderId ∧ order.tenantId = command.tenantId ∧ order.userId = command.userId ∧
      order.status = .pending := by
  simp only [PlaceOrderCommand.pendingOrder, Except.bind_ok] at run
  obtain ⟨built, -, created⟩ := run
  obtain ⟨id, tenantId, userId, status, -, -⟩ := Order.create_ok created
  exact ⟨id, tenantId, userId, status⟩

/-- What the SELECTs of one transaction saw. Under READ COMMITTED each of them
sees the database committed at its own moment, which need not be the one the
transaction writes to. -/
structure Reads where
  saga : Db
  order : Db

def loadOrder (db : Db) (tenantId orderId : Uuid) : Except OrderError Order :=
  match db.findById tenantId orderId with
  | some order => pure order
  | none => throw (.orderNotFound orderId)

namespace HandleInventoryReply

def cancelOrder (order : Order) (saga : OrderSaga) (envelope : EventEnvelopeHeaders) (now : Nat) (stamp : Stamp)
    (db : Db) : Except OrderError Db := do
  let cancelled ← order.cancel
  let updated ← db.updateStatus cancelled
  let moved ← saga.transition .cancelled envelope.eventId
  let transitioned ← updated.2.transition moved now
  return transitioned.2.append (orderCancelledEvent order.id order.userId order.totalCents envelope.correlationId)
    envelope.tenantId stamp

def apply (reads : Reads) (envelope : EventEnvelopeHeaders) (orderId : Uuid) (now : Nat) (stamp : Stamp)
    (db : Db) : Except OrderError Db :=
  match reads.saga.findByOrderId envelope.tenantId orderId with
  | none => throw (.sagaNotFound orderId)
  | some saga =>
    match envelope.eventType with
    | .stockReserved =>
      if saga.state ≠ .started then pure db
      else do
        let order ← loadOrder reads.order envelope.tenantId orderId
        let reserved ← order.reserve
        let updated ← db.updateStatus reserved
        let moved ← saga.transition .stockReserved envelope.eventId
        let transitioned ← updated.2.transition moved now
        return transitioned.2.append (chargePaymentCommand orderId order.totalCents envelope.correlationId)
          envelope.tenantId stamp
    | .stockReservationFailed =>
      if saga.state ≠ .started then pure db
      else do
        let order ← loadOrder reads.order envelope.tenantId orderId
        cancelOrder order saga envelope now stamp db
    | .stockReleased =>
      if saga.state ≠ .compensating then pure db
      else do
        let order ← loadOrder reads.order envelope.tenantId orderId
        cancelOrder order saga envelope now stamp db
    | _ => pure db

def execute (reads : Reads) (envelope : EventEnvelopeHeaders) (orderId : Uuid) (now : Nat) (stamp : Stamp)
    (db : Db) : Except OrderError Db :=
  db.runOnce envelope.eventId (apply reads envelope orderId now stamp)

end HandleInventoryReply

namespace HandlePaymentReply

def apply (reads : Reads) (envelope : EventEnvelopeHeaders) (orderId : Uuid) (now : Nat) (stamp : Stamp)
    (db : Db) : Except OrderError Db :=
  match reads.saga.findByOrderId envelope.tenantId orderId with
  | none => throw (.sagaNotFound orderId)
  | some saga =>
    if saga.state ≠ .stockReserved then pure db
    else match envelope.eventType with
      | .paymentSucceeded => do
        let order ← loadOrder reads.order envelope.tenantId orderId
        let confirmed ← order.confirm
        let updated ← db.updateStatus confirmed
        let moved ← saga.transition .completed envelope.eventId
        let transitioned ← updated.2.transition moved now
        return transitioned.2.append
          (orderConfirmedEvent orderId order.userId order.restaurantId order.totalCents envelope.correlationId)
          envelope.tenantId stamp
      | .paymentFailed => do
        let moved ← saga.transition .compensating envelope.eventId
        let transitioned ← db.transition moved now
        return transitioned.2.append (releaseStockCommand orderId envelope.correlationId) envelope.tenantId stamp
      | _ => pure db

def execute (reads : Reads) (envelope : EventEnvelopeHeaders) (orderId : Uuid) (now : Nat) (stamp : Stamp)
    (db : Db) : Except OrderError Db :=
  db.runOnce envelope.eventId (apply reads envelope orderId now stamp)

end HandlePaymentReply

/-- `CancelOrderCommand` and `ConfirmOrderCommand`. -/
structure OrderCommand where
  tenantId : Uuid
  userId : String
  roles : List String
  orderId : Uuid
  deriving DecidableEq, Repr

/-- `CancelOrderHandler.execute`, as far as the order service's own database
goes: the release that follows is a call to the inventory service whose
failure is only logged. -/
def cancelOrder (read : Db) (command : OrderCommand) (db : Db) : Except OrderError (Order × Db) := do
  let order ← loadOrder read command.tenantId command.orderId
  assertOrderOwnership order command.userId command.roles
  let cancelled ← order.cancel
  db.updateStatus cancelled

def confirmOrder (read : Db) (command : OrderCommand) (db : Db) : Except OrderError (Order × Db) := do
  let order ← loadOrder read command.tenantId command.orderId
  assertOrderOwnership order command.userId command.roles
  let confirmed ← order.confirm
  db.updateStatus confirmed

structure StrandedSagaCandidate where
  orderId : Uuid
  tenantId : Uuid
  state : SagaState
  updatedAt : Nat
  deriving DecidableEq, Repr

/-- The transaction of `SagaReaperProvider.recoverOne`. -/
def commitRedrive (candidate : StrandedSagaCandidate) (saga : OrderSaga) (command : OutboxCommandEntry) (now : Nat)
    (stamp : Stamp) (db : Db) : Except OrderError Db := do
  let db ← db.recordReconcileAttempt candidate.orderId saga.state now
  return db.append command candidate.tenantId stamp

inductive Recovery
  | escalated
  | redriven (command : OutboxCommandEntry)
  | failed (error : OrderError)
  deriving DecidableEq, Repr

/-- The rest of `SagaReaperProvider.recoverOne` once it has read the saga and
the order: whatever is thrown is logged and leaves the database alone. -/
def recoverRead (maxAttempts : Nat) (candidate : StrandedSagaCandidate) (saga : OrderSaga) (order : Order)
    (randomUuid : Uuid) (now : Nat) (stamp : Stamp) (db : Db) : Recovery × Db :=
  match decideReconcileAction saga order maxAttempts randomUuid with
  | .error error => (.failed error, db)
  | .ok .escalate => (.escalated, db)
  | .ok (.redrive command) =>
    match commitRedrive candidate saga command now stamp db with
    | .error error => (.failed error, db)
    | .ok db' => (.redriven command, db')

/-- `SagaReaperProvider.recoverOne`: a candidate without a saga or an order
is only logged. -/
def recoverOne (reads : Reads) (candidate : StrandedSagaCandidate) (maxAttempts : Nat) (randomUuid : Uuid)
    (now : Nat) (stamp : Stamp) (db : Db) : Db :=
  match reads.saga.findByOrderId candidate.tenantId candidate.orderId with
  | none => db
  | some saga =>
    match reads.order.findById candidate.tenantId candidate.orderId with
    | none => db
    | some order => (recoverRead maxAttempts candidate saga order randomUuid now stamp db).2

theorem commitRedrive_ok {candidate : StrandedSagaCandidate} {saga : OrderSaga} {command : OutboxCommandEntry}
    {now : Nat} {stamp : Stamp} {db db' : Db} (run : commitRedrive candidate saga command now stamp db = .ok db') :
    ∃ stored, db.sagas.find candidate.orderId = some stored ∧ stored.state = saga.state ∧
      db' = { db with
        sagas := db.sagas.put { stored with attempts := stored.attempts + 1, updatedAt := now }
        outbox := db.outbox ++ [command.toRow candidate.tenantId stamp] } := by
  simp only [commitRedrive, Except.bind_ok, Except.pure_ok, Db.recordReconcileAttempt_ok] at run
  obtain ⟨_, ⟨stored, stands, sameState, rfl⟩, rfl⟩ := run
  exact ⟨stored, stands, sameState, rfl⟩

/-- What the rest of `recoverOne` can do. -/
inductive Recovers (maxAttempts : Nat) (candidate : StrandedSagaCandidate) (saga : OrderSaga) (order : Order)
    (randomUuid : Uuid) (now : Nat) (stamp : Stamp) (db : Db) : Recovery → Db → Prop
  | escalated : maxAttempts ≤ saga.attempts →
      Recovers maxAttempts candidate saga order randomUuid now stamp db .escalated db
  | failed {error} : saga.attempts < maxAttempts → Recovers maxAttempts candidate saga order randomUuid now stamp db (.failed error) db
  | redriven {command stored} :
      decideReconcileAction saga order maxAttempts randomUuid = .ok (.redrive command) →
      db.sagas.find candidate.orderId = some stored → stored.state = saga.state →
      Recovers maxAttempts candidate saga order randomUuid now stamp db (.redriven command) { db with
        sagas := db.sagas.put { stored with attempts := stored.attempts + 1, updatedAt := now }
        outbox := db.outbox ++ [command.toRow candidate.tenantId stamp] }

theorem recoverRead_recovers (maxAttempts : Nat) (candidate : StrandedSagaCandidate) (saga : OrderSaga)
    (order : Order) (randomUuid : Uuid) (now : Nat) (stamp : Stamp) (db : Db) :
    Recovers maxAttempts candidate saga order randomUuid now stamp db
      (recoverRead maxAttempts candidate saga order randomUuid now stamp db).1
      (recoverRead maxAttempts candidate saga order randomUuid now stamp db).2 := by
  unfold recoverRead
  split <;> rename_i decided
  · have below : ¬ maxAttempts ≤ saga.attempts := by
      intro reached
      cases (decideReconcileAction_escalate.mpr reached).symm.trans decided
    exact .failed (Nat.lt_of_not_le below)
  · exact .escalated (decideReconcileAction_escalate.mp decided)
  · split <;> rename_i run
    · exact .failed (decideReconcileAction_redrive decided).1
    · obtain ⟨stored, stands, sameState, same⟩ := commitRedrive_ok run
      rw [same]
      exact .redriven decided stands sameState

end FoodDelivery.OrderService
