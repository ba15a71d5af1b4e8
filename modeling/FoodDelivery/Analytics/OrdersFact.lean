import FoodDelivery.Lib.Replacing
import FoodDelivery.Messaging.Envelope
import FoodDelivery.Tenancy.Identity

namespace FoodDelivery.Analytics

open Messaging Replacing Tenancy

inductive OrderFactStatus
  | confirmed
  | cancelled
  deriving DecidableEq, Repr

/-- `occurredAt` is in milliseconds. -/
structure OrdersFactRow where
  tenantId : String
  orderId : String
  restaurantId : String
  userId : String
  status : OrderFactStatus
  totalCents : Int
  occurredAt : Int
  deriving DecidableEq, Repr

/-- The order that a row is about. -/
def OrdersFactRow.order (row : OrdersFactRow) : String × String := (row.tenantId, row.orderId)

/-- The payload of an event as far as it has one; a total that is not a number
counts as none. -/
structure OrderLifecyclePayload where
  orderId : Option String
  userId : Option String
  totalCents : Option Int
  restaurantId : Option String
  deriving DecidableEq, Repr

/-- A row of the table `orders_fact`, with what `now64` read when it was inserted. -/
structure OrdersFact where
  fact : OrdersFactRow
  ingestedAt : Nat
  deriving DecidableEq, Repr

/-- The `ORDER BY` of the table. -/
def OrdersFact.key (row : OrdersFact) : String × String := row.fact.order

structure Delivery where
  envelope : EventEnvelopeHeaders
  occurredAt : String
  payload : OrderLifecyclePayload
  ingestedAt : Nat
  deriving DecidableEq, Repr

structure IngestOrderEventInput where
  orderId : String
  userId : String
  totalCents : Int
  restaurantId : Option String
  status : OrderFactStatus

/-- `IngestOrderEventHandler.execute` with the writer: `newDate` is the time of a
`Date` of a text, and there is none to be written where it is invalid. -/
def execute (newDate : String → Option Int) (delivery : Delivery) (input : IngestOrderEventInput) (table : List OrdersFact) :
    Except String (List OrdersFact) :=
  match newDate delivery.occurredAt with
  | none => throw "Invalid time value"
  | some occurredAt =>
    pure (table ++ [{
      fact :=
        { tenantId := delivery.envelope.tenantId
          orderId := input.orderId
          restaurantId := input.restaurantId.getD ""
          userId := input.userId
          status := input.status
          totalCents := input.totalCents
          occurredAt }
      ingestedAt := delivery.ingestedAt }])

/-- `OrderEventsConsumer.handle`. -/
def handle (newDate : String → Option Int) (delivery : Delivery) (table : List OrdersFact) : Except String (List OrdersFact) :=
  if delivery.envelope.eventType ≠ .orderConfirmed ∧ delivery.envelope.eventType ≠ .orderCancelled then pure table
  else
    match filled delivery.payload.orderId, filled delivery.payload.userId, delivery.payload.totalCents with
    | some orderId, some userId, some totalCents =>
      execute newDate delivery
        { orderId, userId, totalCents
          restaurantId := delivery.payload.restaurantId
          status := if delivery.envelope.eventType = .orderConfirmed then .confirmed else .cancelled } table
    | _, _, _ =>
      throw s!"{delivery.envelope.eventType.name} missing orderId/userId/totalCents (event {delivery.envelope.eventId})"

/-- A delivery that throws writes nothing. -/
def consume (newDate : String → Option Int) (table : List OrdersFact) (delivery : Delivery) : List OrdersFact :=
  match handle newDate delivery table with
  | .ok table => table
  | .error _ => table

def ingested (newDate : String → Option Int) (deliveries : List Delivery) : List OrdersFact := deliveries.foldl (consume newDate) []

/-- The terminal event of an order, as the order service announces it. -/
structure OrderEvent where
  tenantId : String
  orderId : String
  userId : String
  restaurantId : Option String
  status : OrderFactStatus
  totalCents : Int
  occurredAt : Int
  order_named : orderId ≠ ""
  user_named : userId ≠ ""
  deriving DecidableEq

def OrderEvent.order (event : OrderEvent) : String × String := (event.tenantId, event.orderId)

def OrderEvent.fact (event : OrderEvent) : OrdersFactRow where
  tenantId := event.tenantId
  orderId := event.orderId
  restaurantId := event.restaurantId.getD ""
  userId := event.userId
  status := event.status
  totalCents := event.totalCents
  occurredAt := event.occurredAt

def OrderFactStatus.eventType : OrderFactStatus → EventType
  | .confirmed => .orderConfirmed
  | .cancelled => .orderCancelled

structure Carries (newDate : String → Option Int) (delivery : Delivery) (event : OrderEvent) : Prop where
  tenantId : delivery.envelope.tenantId = event.tenantId
  eventType : delivery.envelope.eventType = event.status.eventType
  occurredAt : newDate delivery.occurredAt = some event.occurredAt
  payload : delivery.payload =
    { orderId := some event.orderId
      userId := some event.userId
      totalCents := some event.totalCents
      restaurantId := event.restaurantId }

def Delivery.Terminal (delivery : Delivery) : Prop :=
  delivery.envelope.eventType = .orderConfirmed ∨ delivery.envelope.eventType = .orderCancelled

/-- Each order has one terminal event at most, and each of these is delivered, in
any order and any number of times, among events of other kinds. -/
structure Delivered (newDate : String → Option Int) (events : Finset OrderEvent) (deliveries : List Delivery) : Prop where
  distinct : Set.InjOn OrderEvent.order events
  all : ∀ event ∈ events, ∃ delivery ∈ deliveries, Carries newDate delivery event
  only : ∀ delivery ∈ deliveries, delivery.Terminal → ∃ event ∈ events, Carries newDate delivery event

section ingestion

variable {newDate : String → Option Int} {delivery : Delivery} {event : OrderEvent} {table : List OrdersFact} {deliveries : List Delivery}

theorem consume_other (other : ¬ delivery.Terminal) : consume newDate table delivery = table := by
  have ignored : delivery.envelope.eventType ≠ .orderConfirmed ∧ delivery.envelope.eventType ≠ .orderCancelled := not_or.mp other
  rw [consume, handle, if_pos ignored]
  rfl

theorem Carries.terminal (carries : Carries newDate delivery event) : delivery.Terminal := by
  rw [Delivery.Terminal, carries.eventType]
  cases event.status with
  | confirmed => exact Or.inl rfl
  | cancelled => exact Or.inr rfl

theorem consume_carries (carries : Carries newDate delivery event) :
    consume newDate table delivery = table ++ [{ fact := event.fact, ingestedAt := delivery.ingestedAt }] := by
  have taken : ¬ (delivery.envelope.eventType ≠ .orderConfirmed ∧ delivery.envelope.eventType ≠ .orderCancelled) :=
    not_and_or.mpr (carries.terminal.imp not_not.mpr not_not.mpr)
  have status : (if delivery.envelope.eventType = .orderConfirmed then OrderFactStatus.confirmed else .cancelled) = event.status := by
    rw [carries.eventType]
    cases event.status with
    | confirmed => rfl
    | cancelled => rfl
  rw [consume, handle, if_neg taken, status]
  simp only [carries.payload, filled_of_ne_empty event.order_named, filled_of_ne_empty event.user_named, execute, carries.occurredAt,
    carries.tenantId]
  rfl

theorem Carries.same_fact {event' : OrderEvent} (carries : Carries newDate delivery event) (carries' : Carries newDate delivery event') :
    event.fact = event'.fact := by
  have rows := (@consume_carries newDate delivery event [] carries).symm.trans (@consume_carries newDate delivery event' [] carries')
  injection rows with row
  exact congrArg OrdersFact.fact row

/-- A delivery adds the row of its event, if it has one. -/
theorem mem_consume {row : OrdersFact} (carried : delivery.Terminal → ∃ event, Carries newDate delivery event) :
    row ∈ consume newDate table delivery ↔
      row ∈ table ∨ ∃ event, Carries newDate delivery event ∧ row = { fact := event.fact, ingestedAt := delivery.ingestedAt } := by
  by_cases terminal : delivery.Terminal
  · obtain ⟨event, carries⟩ := carried terminal
    rw [consume_carries carries, List.mem_append, List.mem_singleton]
    refine or_congr_right ⟨fun same => ⟨event, carries, same⟩, ?_⟩
    rintro ⟨event', carries', rfl⟩
    rw [carries.same_fact carries']
  · rw [consume_other terminal]
    refine ⟨Or.inl, ?_⟩
    rintro (old | ⟨event, carries, -⟩)
    · exact old
    · exact absurd carries.terminal terminal

theorem mem_ingested {row : OrdersFact} (carried : ∀ delivery ∈ deliveries, delivery.Terminal → ∃ event, Carries newDate delivery event) :
    row ∈ deliveries.foldl (consume newDate) table ↔
      row ∈ table ∨ ∃ delivery ∈ deliveries, ∃ event, Carries newDate delivery event ∧
        row = { fact := event.fact, ingestedAt := delivery.ingestedAt } := by
  induction deliveries generalizing table with
  | nil => simp
  | cons delivery rest ih =>
    obtain ⟨first, others⟩ := List.forall_mem_cons.mp carried
    rw [List.foldl_cons, ih others, mem_consume first, or_assoc]
    refine or_congr_right ?_
    simp only [List.mem_cons, or_and_right, exists_or, exists_eq_left]

/-- What `FINAL` keeps is one row for each order that has a terminal event, and
says what the event does. -/
theorem Delivered.perm {events : Finset OrderEvent} (delivered : Delivered newDate events deliveries) {kept : List OrdersFact}
    (final : Final OrdersFact.key OrdersFact.ingestedAt (ingested newDate deliveries) kept) :
    (kept.map OrdersFact.fact).Perm (events.toList.map OrderEvent.fact) := by
  have carried (delivery : Delivery) (member : delivery ∈ deliveries) (terminal : delivery.Terminal) :
      ∃ event, Carries newDate delivery event := by
    obtain ⟨event, -, carries⟩ := delivered.only delivery member terminal
    exact ⟨event, carries⟩
  have keyed (row : OrdersFact) : row.key = row.fact.order := rfl
  refine final.perm keyed ?_ ?_ delivered.distinct
  · intro row member
    rcases (mem_ingested carried).mp member with none | ⟨delivery, inDeliveries, event, carries, rfl⟩
    · cases none
    · obtain ⟨event', inEvents, carries'⟩ := delivered.only delivery inDeliveries carries.terminal
      exact ⟨event', inEvents, carries.same_fact carries'⟩
  · intro event inEvents
    obtain ⟨delivery, inDeliveries, carries⟩ := delivered.all event inEvents
    exact ⟨_, (mem_ingested carried).mpr (Or.inr ⟨delivery, inDeliveries, event, carries, rfl⟩), rfl⟩

end ingestion

end FoodDelivery.Analytics
