import Mathlib.Algebra.Ring.Int.Defs
import FoodDelivery.Lib.Except
import FoodDelivery.Messaging.Envelope

namespace FoodDelivery.OrderService

inductive OrderStatus
  | pending
  | reserved
  | confirmed
  | cancelled
  deriving DecidableEq, Repr

inductive SagaState
  | started
  | stockReserved
  | completed
  | compensating
  | cancelled
  deriving DecidableEq, Repr

/-- The errors of the order service, each with what its constructor is given. -/
inductive OrderError
  | invalidOrderRequest (reason : String)
  | orderNotFound (orderId : Uuid)
  | illegalOrderTransition (source target : OrderStatus)
  | menuValidation (reason : String)
  | idempotencyConflict (reason : String)
  | orderConcurrencyConflict (orderId : Uuid)
  | orderForbidden (orderId : Uuid)
  | illegalSagaTransition (source target : SagaState)
  | sagaConcurrencyConflict (orderId : Uuid)
  | sagaNotFound (orderId : Uuid)
  | sagaStateChanged (orderId : Uuid) (expectedState : SagaState)
  | terminalSagaState (state : SagaState)
  | uniqueViolation
  deriving DecidableEq, Repr

def maxMoneyCents : Int := 2147483647

structure OrderItem where
  itemId : Uuid
  qty : Int
  unitPriceCents : Int
  lineTotalCents : Int
  deriving DecidableEq, Repr

def assertPositiveInteger (value : Int) (label : String) : Except OrderError Unit :=
  if value ≤ 0 then throw (.invalidOrderRequest (label ++ " must be a positive integer")) else pure ()

def assertNonNegativeInteger (value : Int) (label : String) : Except OrderError Unit :=
  if value < 0 then throw (.invalidOrderRequest (label ++ " must be a non-negative integer")) else pure ()

def OrderItem.create (itemId : Uuid) (qty unitPriceCents : Int) : Except OrderError OrderItem := do
  assertPositiveInteger qty "quantity"
  assertNonNegativeInteger unitPriceCents "unit price"
  let lineTotalCents := qty * unitPriceCents
  if lineTotalCents > maxMoneyCents then
    throw (.invalidOrderRequest ("line total for item \"" ++ itemId ++ "\" exceeds the maximum allowed amount"))
  else return { itemId, qty, unitPriceCents, lineTotalCents }

/-- A row of `orders` together with its `order_items`. The domain object has
the same fields: the mappers copy them one by one. -/
structure Order where
  id : Uuid
  tenantId : Uuid
  userId : String
  restaurantId : Uuid
  status : OrderStatus
  items : List OrderItem
  subtotalCents : Int
  deliveryFeeCents : Int
  vatCents : Int
  discountCents : Int
  totalCents : Int
  version : Nat
  deriving DecidableEq, Repr

structure OrderPricingInput where
  deliveryFeeCents : Int
  vatRateBps : Int
  discountCents : Int
  deriving DecidableEq, Repr

def assertAmount (amount : Int) (label : String) : Except OrderError Unit :=
  if amount > maxMoneyCents then
    throw (.invalidOrderRequest (label ++ " exceeds the maximum allowed amount"))
  else pure ()

def assertBoundedNonNegativeInteger (value : Int) (label : String) : Except OrderError Unit := do
  assertNonNegativeInteger value label
  assertAmount value label

def assertValidPricingInput (pricing : OrderPricingInput) : Except OrderError Unit := do
  assertBoundedNonNegativeInteger pricing.deliveryFeeCents "delivery fee"
  assertBoundedNonNegativeInteger pricing.vatRateBps "VAT rate"
  assertBoundedNonNegativeInteger pricing.discountCents "discount"

/-- `Order.create`. The version is the one the `orders` row is inserted with:
the mapper drops the domain's 0 and the version column starts at 1. -/
def Order.create (id tenantId : Uuid) (userId : String) (restaurantId : Uuid) (items : List OrderItem)
    (pricing : OrderPricingInput) : Except OrderError Order :=
  if items.isEmpty then throw (.invalidOrderRequest "order must contain at least one item")
  else if restaurantId = "" then throw (.invalidOrderRequest "restaurantId is required")
  else do
    assertValidPricingInput pricing
    let subtotalCents := (items.map (·.lineTotalCents)).sum
    let vatCents := (subtotalCents * pricing.vatRateBps).fdiv 10000
    let totalCents := max 0 (subtotalCents + pricing.deliveryFeeCents + vatCents - pricing.discountCents)
    assertAmount subtotalCents "order subtotal"
    assertAmount vatCents "order VAT"
    assertAmount totalCents "order total"
    return {
      id, tenantId, userId, restaurantId, status := .pending, items, subtotalCents,
      deliveryFeeCents := pricing.deliveryFeeCents, vatCents,
      discountCents := pricing.discountCents, totalCents, version := 1 }

def OrderStatus.allowedTransitions : OrderStatus → List OrderStatus
  | .pending => [.reserved, .cancelled]
  | .reserved => [.confirmed, .cancelled]
  | .confirmed => []
  | .cancelled => []

def Order.transitionTo (order : Order) (next : OrderStatus) : Except OrderError Order :=
  if next ∈ order.status.allowedTransitions then pure { order with status := next }
  else throw (.illegalOrderTransition order.status next)

def Order.reserve (order : Order) : Except OrderError Order := order.transitionTo .reserved
def Order.confirm (order : Order) : Except OrderError Order := order.transitionTo .confirmed
def Order.cancel (order : Order) : Except OrderError Order := order.transitionTo .cancelled

def Order.isOwnedBy (order : Order) (userId : String) : Bool := order.userId == userId

def assertOrderOwnership (order : Order) (userId : String) (roles : List String) : Except OrderError Unit :=
  if roles.contains "admin" || order.isOwnedBy userId then pure ()
  else throw (.orderForbidden order.id)

/-- A row of `order_saga`. -/
structure OrderSaga where
  orderId : Uuid
  tenantId : Uuid
  state : SagaState
  correlationId : Option Uuid
  lastEventId : Option Uuid
  version : Nat
  attempts : Nat
  updatedAt : Nat
  deriving DecidableEq, Repr

def OrderSaga.start (orderId tenantId correlationId : Uuid) (now : Nat) : OrderSaga where
  orderId := orderId
  tenantId := tenantId
  state := .started
  correlationId := some correlationId
  lastEventId := none
  version := 0
  attempts := 0
  updatedAt := now

def SagaState.allowedTransitions : SagaState → List SagaState
  | .started => [.stockReserved, .cancelled]
  | .stockReserved => [.completed, .compensating]
  | .compensating => [.cancelled]
  | .completed => []
  | .cancelled => []

def OrderSaga.isTerminal (saga : OrderSaga) : Bool := saga.state.allowedTransitions.isEmpty

def OrderSaga.canTransitionTo (saga : OrderSaga) (next : SagaState) : Bool :=
  next ∈ saga.state.allowedTransitions

/-- `OrderSaga.transition`; the stamp on `updatedAt` is overwritten by the
repository's `now()`. -/
def OrderSaga.transition (saga : OrderSaga) (next : SagaState) (drivingEventId : Uuid) : Except OrderError OrderSaga :=
  if saga.canTransitionTo next then pure { saga with state := next, lastEventId := some drivingEventId }
  else throw (.illegalSagaTransition saga.state next)

theorem Order.transitionTo_ok {order order' : Order} {next : OrderStatus} :
    order.transitionTo next = .ok order' ↔
      next ∈ order.status.allowedTransitions ∧ order' = { order with status := next } := by
  unfold Order.transitionTo
  rw [Except.guard_ok, Except.pure_ok, eq_comm (b := order')]

theorem OrderSaga.transition_ok {saga saga' : OrderSaga} {next : SagaState} {event : Uuid} :
    saga.transition next event = .ok saga' ↔
      next ∈ saga.state.allowedTransitions ∧ saga' = { saga with state := next, lastEventId := some event } := by
  unfold OrderSaga.transition OrderSaga.canTransitionTo
  rw [Except.guard_ok, Except.pure_ok, decide_eq_true_eq, eq_comm (b := saga')]

/-- An order is created pending and at the first version, whatever it holds. -/
theorem Order.create_ok {id tenantId restaurantId : Uuid} {userId : String} {items : List OrderItem}
    {pricing : OrderPricingInput} {order : Order}
    (run : Order.create id tenantId userId restaurantId items pricing = .ok order) :
    order.id = id ∧ order.tenantId = tenantId ∧ order.userId = userId ∧ order.status = .pending ∧
      order.items = items ∧ order.version = 1 := by
  unfold Order.create at run
  simp only [Except.reject_ok, Except.bind_ok, Except.pure_ok] at run
  obtain ⟨-, -, -, -, -, -, -, -, -, -, rfl⟩ := run
  exact ⟨rfl, rfl, rfl, rfl, rfl, rfl⟩

end FoodDelivery.OrderService
