import FoodDelivery.Order.Domain

namespace FoodDelivery.OrderService

open Messaging

def reserveStockCommand (orderId : Uuid) (items : List ItemQty) (correlationId : Uuid) : OutboxCommandEntry where
  aggregateId := orderId
  topic := .inventoryCommands
  eventType := .reserveStock
  payload := .items orderId items
  correlationId := some correlationId

def releaseStockCommand (orderId correlationId : Uuid) : OutboxCommandEntry where
  aggregateId := orderId
  topic := .inventoryCommands
  eventType := .releaseStock
  payload := .order orderId
  correlationId := some correlationId

def chargePaymentCommand (orderId : Uuid) (totalCents : Int) (correlationId : Uuid) : OutboxCommandEntry where
  aggregateId := orderId
  topic := .paymentCommands
  eventType := .chargePayment
  payload := .total orderId totalCents
  correlationId := some correlationId

/-- `orderConfirmedEvent`; an empty restaurant id is left out of the payload. -/
def orderConfirmedEvent (orderId : Uuid) (userId : String) (restaurantId : Uuid) (totalCents : Int)
    (correlationId : Uuid) : OutboxCommandEntry where
  aggregateId := orderId
  topic := .orderEvents
  eventType := .orderConfirmed
  payload := .lifecycle orderId userId "CONFIRMED" totalCents (if restaurantId = "" then none else some restaurantId)
  correlationId := some correlationId

def orderCancelledEvent (orderId : Uuid) (userId : String) (totalCents : Int) (correlationId : Uuid) :
    OutboxCommandEntry where
  aggregateId := orderId
  topic := .orderEvents
  eventType := .orderCancelled
  payload := .lifecycle orderId userId "CANCELLED" totalCents none
  correlationId := some correlationId

section topics

variable (orderId userId restaurantId correlationId : Uuid) (items : List ItemQty) (totalCents : Int)

@[simp] theorem reserveStockCommand_topic :
    (reserveStockCommand orderId items correlationId).topic = .inventoryCommands := rfl

@[simp] theorem releaseStockCommand_topic : (releaseStockCommand orderId correlationId).topic = .inventoryCommands := rfl

@[simp] theorem chargePaymentCommand_topic :
    (chargePaymentCommand orderId totalCents correlationId).topic = .paymentCommands := rfl

@[simp] theorem orderConfirmedEvent_topic :
    (orderConfirmedEvent orderId userId restaurantId totalCents correlationId).topic = .orderEvents := rfl

@[simp] theorem orderCancelledEvent_topic :
    (orderCancelledEvent orderId userId totalCents correlationId).topic = .orderEvents := rfl

end topics

def Order.itemQtys (order : Order) : List ItemQty :=
  order.items.map fun item => { itemId := item.itemId, qty := item.qty }

inductive ReconcileAction
  | redrive (command : OutboxCommandEntry)
  | escalate
  deriving DecidableEq, Repr

/-- `randomUuid` stands in for a correlation id the saga does not have. -/
def decideReconcileAction (saga : OrderSaga) (order : Order) (maxAttempts : Nat) (randomUuid : Uuid) :
    Except OrderError ReconcileAction :=
  let correlationId := saga.correlationId.getD randomUuid
  if saga.attempts ≥ maxAttempts then pure .escalate
  else match saga.state with
    | .started => pure (.redrive (reserveStockCommand saga.orderId order.itemQtys correlationId))
    | .stockReserved => pure (.redrive (chargePaymentCommand saga.orderId order.totalCents correlationId))
    | .compensating => pure (.redrive (releaseStockCommand saga.orderId correlationId))
    | state => throw (.terminalSagaState state)

/-- The command that moves the saga of an order on from a state. -/
inductive SagaCommand (orderId : Uuid) (order : Order) : SagaState → OutboxCommandEntry → Prop
  | reserve (correlationId : Uuid) :
      SagaCommand orderId order .started (reserveStockCommand orderId order.itemQtys correlationId)
  | charge (correlationId : Uuid) :
      SagaCommand orderId order .stockReserved (chargePaymentCommand orderId order.totalCents correlationId)
  | release (correlationId : Uuid) : SagaCommand orderId order .compensating (releaseStockCommand orderId correlationId)

theorem SagaCommand.aggregateId {orderId : Uuid} {order : Order} {state : SagaState} {command : OutboxCommandEntry}
    (moves : SagaCommand orderId order state command) : command.aggregateId = orderId := by
  cases moves <;> rfl

/-- A saga is re-driven below its cap, with the command of its state. -/
theorem decideReconcileAction_redrive {saga : OrderSaga} {order : Order} {maxAttempts : Nat} {uuid : Uuid}
    {command : OutboxCommandEntry}
    (run : decideReconcileAction saga order maxAttempts uuid = .ok (.redrive command)) :
    saga.attempts < maxAttempts ∧ SagaCommand saga.orderId order saga.state command := by
  unfold decideReconcileAction at run
  split at run
  · cases Except.ok.inj run
  · rename_i below
    refine ⟨Nat.lt_of_not_le below, ?_⟩
    split at run <;> rename_i state
    · cases Except.ok.inj run
      exact state ▸ SagaCommand.reserve _
    · cases Except.ok.inj run
      exact state ▸ SagaCommand.charge _
    · cases Except.ok.inj run
      exact state ▸ SagaCommand.release _
    · exact absurd run Except.throw_ok

theorem decideReconcileAction_escalate {saga : OrderSaga} {order : Order} {maxAttempts : Nat} {uuid : Uuid} :
    decideReconcileAction saga order maxAttempts uuid = .ok .escalate ↔ maxAttempts ≤ saga.attempts := by
  unfold decideReconcileAction
  split
  · rename_i reached
    exact ⟨fun _ => reached, fun _ => rfl⟩
  · rename_i below
    refine ⟨fun run => ?_, fun reached => absurd reached below⟩
    split at run
    · cases Except.ok.inj run
    · cases Except.ok.inj run
    · cases Except.ok.inj run
    · exact absurd run Except.throw_ok

end FoodDelivery.OrderService
