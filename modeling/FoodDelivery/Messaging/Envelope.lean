import Mathlib.Tactic.Common

namespace FoodDelivery

/-- Identifiers are texts; only their equality and their order matter. -/
abbrev Uuid := String

namespace Messaging

/-- What a request to a broker or a database does: one that throws may still
have been carried out. -/
inductive RequestResult
  | done
  | lostAnswer
  | failed
  deriving DecidableEq, Repr

/-- The `x-event-type` header. A name that no handler of the order saga
knows is kept as it is. -/
inductive EventType
  | reserveStock
  | releaseStock
  | chargePayment
  | stockReserved
  | stockReservationFailed
  | stockReleased
  | paymentSucceeded
  | paymentFailed
  | orderConfirmed
  | orderCancelled
  | other (name : String)
  deriving DecidableEq, Repr

def EventType.name : EventType → String
  | .reserveStock => "ReserveStock"
  | .releaseStock => "ReleaseStock"
  | .chargePayment => "ChargePayment"
  | .stockReserved => "StockReserved"
  | .stockReservationFailed => "StockReservationFailed"
  | .stockReleased => "StockReleased"
  | .paymentSucceeded => "PaymentSucceeded"
  | .paymentFailed => "PaymentFailed"
  | .orderConfirmed => "OrderConfirmed"
  | .orderCancelled => "OrderCancelled"
  | .other name => name

inductive Topic
  | inventoryCommands
  | inventoryReplies
  | paymentCommands
  | paymentReplies
  | orderEvents
  deriving DecidableEq, Repr

structure ItemQty where
  itemId : Uuid
  qty : Int
  deriving DecidableEq, Repr

/-- The JSON values the saga's messages carry, one constructor a shape. -/
inductive Payload
  | order (orderId : Uuid)
  | items (orderId : Uuid) (items : List ItemQty)
  | total (orderId : Uuid) (totalCents : Int)
  | reason (orderId : Uuid) (reason : String)
  | lifecycle (orderId : Uuid) (userId : String) (status : String) (totalCents : Int)
      (restaurantId : Option Uuid)
  deriving DecidableEq, Repr

def Payload.orderId : Payload → Uuid
  | .order orderId => orderId
  | .items orderId _ => orderId
  | .total orderId _ => orderId
  | .reason orderId _ => orderId
  | .lifecycle orderId _ _ _ _ => orderId

/-- The decoded headers of a Kafka message, less `x-occurred-at` and
`x-aggregate-id`, which no handler reads. -/
structure EventEnvelopeHeaders where
  eventId : Uuid
  eventType : EventType
  tenantId : Uuid
  correlationId : Uuid
  deriving DecidableEq, Repr

structure OutboxCommandEntry where
  aggregateId : Uuid
  topic : Topic
  eventType : EventType
  payload : Payload
  correlationId : Option Uuid
  deriving DecidableEq, Repr

/-- A row of an outbox table. Rows stand in the table in commit order. -/
structure OutboxRow where
  id : Uuid
  aggregateId : Uuid
  topic : Topic
  eventType : EventType
  payload : Payload
  tenantId : Uuid
  correlationId : Uuid
  deriving DecidableEq, Repr

/-- The two identifiers an append draws from `randomUUID`: the row's own and
the correlation id of an entry that brings none. -/
structure Stamp where
  id : Uuid
  correlationId : Uuid
  deriving DecidableEq, Repr

/-- `append` of the outbox adapters: the entry becomes a row of the tenant in
whose context it is written. -/
def OutboxCommandEntry.toRow (entry : OutboxCommandEntry) (tenantId : Uuid) (stamp : Stamp) : OutboxRow where
  id := stamp.id
  aggregateId := entry.aggregateId
  topic := entry.topic
  eventType := entry.eventType
  payload := entry.payload
  tenantId := tenantId
  correlationId := entry.correlationId.getD stamp.correlationId

/-- The envelope under which the relay publishes a row and a consumer
receives it: the event id is the row's id. -/
def OutboxRow.envelope (row : OutboxRow) : EventEnvelopeHeaders where
  eventId := row.id
  eventType := row.eventType
  tenantId := row.tenantId
  correlationId := row.correlationId

/-- The rows of one aggregate: they go out under one key, in their order. -/
def rowsOf (outbox : List OutboxRow) (aggregateId : Uuid) : List OutboxRow :=
  outbox.filter fun row => row.aggregateId = aggregateId

theorem mem_rowsOf {outbox : List OutboxRow} {aggregateId : Uuid} {row : OutboxRow} :
    row ∈ rowsOf outbox aggregateId ↔ row ∈ outbox ∧ row.aggregateId = aggregateId := by
  rw [rowsOf, List.mem_filter, decide_eq_true_eq]

theorem rowsOf_append_self {outbox : List OutboxRow} {entry : OutboxCommandEntry} {aggregateId : Uuid}
    (same : entry.aggregateId = aggregateId) (tenantId : Uuid) (stamp : Stamp) :
    rowsOf (outbox ++ [entry.toRow tenantId stamp]) aggregateId =
      rowsOf outbox aggregateId ++ [entry.toRow tenantId stamp] := by
  have kept : (entry.toRow tenantId stamp).aggregateId = aggregateId := same
  simp only [rowsOf, List.filter_append, List.filter_cons, kept, decide_true, if_true, List.filter_nil]

theorem rowsOf_append_of_ne {outbox : List OutboxRow} {entry : OutboxCommandEntry} {aggregateId : Uuid}
    (different : entry.aggregateId ≠ aggregateId) (tenantId : Uuid) (stamp : Stamp) :
    rowsOf (outbox ++ [entry.toRow tenantId stamp]) aggregateId = rowsOf outbox aggregateId := by
  have dropped : (entry.toRow tenantId stamp).aggregateId ≠ aggregateId := different
  simp [rowsOf, dropped]

/-- The rows on one topic. -/
def sentOn (rows : List OutboxRow) (topic : Topic) : List OutboxRow := rows.filter fun row => row.topic = topic

theorem mem_sentOn {rows : List OutboxRow} {topic : Topic} {row : OutboxRow} :
    row ∈ sentOn rows topic ↔ row ∈ rows ∧ row.topic = topic := by
  rw [sentOn, List.mem_filter, decide_eq_true_eq]

theorem sentOn_append (rows : List OutboxRow) (entry : OutboxCommandEntry) (tenantId : Uuid) (stamp : Stamp)
    (topic : Topic) : sentOn (rows ++ [entry.toRow tenantId stamp]) topic =
      sentOn rows topic ++ if entry.topic = topic then [entry.toRow tenantId stamp] else [] := by
  have kept : (entry.toRow tenantId stamp).topic = entry.topic := rfl
  rw [sentOn, List.filter_append, List.filter_cons, List.filter_nil, kept]
  simp only [decide_eq_true_eq]
  rfl

@[simp] theorem OutboxCommandEntry.toRow_aggregateId (entry : OutboxCommandEntry) (tenantId : Uuid) (stamp : Stamp) :
    (entry.toRow tenantId stamp).aggregateId = entry.aggregateId := rfl

@[simp] theorem OutboxCommandEntry.toRow_eventType (entry : OutboxCommandEntry) (tenantId : Uuid) (stamp : Stamp) :
    (entry.toRow tenantId stamp).eventType = entry.eventType := rfl

end Messaging

end FoodDelivery
