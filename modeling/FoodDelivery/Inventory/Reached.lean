import FoodDelivery.Inventory.Transactions

namespace FoodDelivery.InventoryService

open CommitLog Messaging ReadCommitted

/-- The service while the transactions of its handlers run side by side,
statement by statement; the replies are appended in transactions of their own. -/
structure Concurrent where
  tables : State Statement Statement.Result InventoryError Unit Books Write
  outbox : List OutboxRow
  processedEvents : List Uuid

namespace Concurrent

/-- What has been committed. -/
def db (service : Concurrent) : Db where
  inventory := service.tables.committed.inventory
  outbox := service.outbox
  processedEvents := service.processedEvents

def start (initial : Inventory) : Concurrent where
  tables := State.start { inventory := initial, returned := [] }
  outbox := []
  processedEvents := []

inductive Step : Concurrent → Concurrent → Prop
  | statement {service tables} : ReadCommitted.Step books Starts service.tables tables → Step service { service with tables }
  | reply {service} (envelope : EventEnvelopeHeaders) (entry : OutboxCommandEntry) (stamp : Stamp) :
      Step service { service with
        outbox := (service.db.appendOnce envelope entry stamp).outbox
        processedEvents := (service.db.appendOnce envelope entry stamp).processedEvents }

theorem reachable {initial : Inventory} {service : Concurrent} (steps : Relation.ReflTransGen Step (start initial) service) :
    Reachable books Starts { inventory := initial, returned := [] } service.tables := by
  induction steps with
  | refl => exact .refl
  | tail _ step ih =>
    cases step with
    | statement moved => exact ih.tail moved
    | reply => exact ih

theorem of_reachable {initial : Inventory} {tables : State Statement Statement.Result InventoryError Unit Books Write}
    (reachable : Reachable books Starts { inventory := initial, returned := [] } tables) :
    Relation.ReflTransGen Step (start initial) { tables, outbox := [], processedEvents := [] } := by
  induction reachable with
  | refl => exact .refl
  | tail _ moved ih => exact ih.tail (.statement moved)

end Concurrent

/-- What the database can be: after whole commands and calls, or whenever
those that run side by side have committed something. -/
inductive Reached : Db → Prop
  | run {log db} : Run log db → Reached db
  | concurrent {initial service} : initial.reservations = [] →
      (∀ key row, initial.stock.find key = some row → 0 ≤ row.available) →
      Relation.ReflTransGen Concurrent.Step (Concurrent.start initial) service → Reached service.db

theorem Reached.distinct {db : Db} (reached : Reached db) : db.inventory.Distinct := by
  cases reached with
  | run run => exact run.distinct
  | concurrent unreserved nonneg steps =>
    exact (Reachable.booksSound unreserved nonneg (Concurrent.reachable steps)).wellFormed.distinct

/-- The redelivery of a recorded command leaves the tables and the outbox as
they were exactly when the command has nothing left to do. -/
theorem Reached.redelivery_harmless_iff_settled {db : Db} (reached : Reached db) {envelope : EventEnvelopeHeaders}
    (payload : Payload) (recorded : envelope.eventId ∈ db.processedEvents) (ids : Nat → Uuid) (stamp : Stamp) :
    (∀ db', db.handleCommand envelope payload ids stamp = .ok db' → db.Same db') ↔
      Settled db.inventory envelope payload :=
  db.redelivery_harmless reached.distinct payload recorded ids stamp

theorem redelivery_harmless_of_released_sample :
    ((∀ db', releasedDb.handleCommand (sampleEnvelope "second" .releaseStock) (.order "order") sampleIds sampleStamp =
      .ok db' → releasedDb.Same db') ↔
        Settled releasedDb.inventory (sampleEnvelope "second" .releaseStock) (.order "order")) ∧
    ((∀ db', reservedDb.handleCommand (sampleEnvelope "first" .reserveStock) samplePayload sampleIds sampleStamp =
      .ok db' → reservedDb.Same db') ↔
        Settled reservedDb.inventory (sampleEnvelope "first" .reserveStock) samplePayload) := by
  constructor
  · obtain ⟨log, run⟩ := sampleRun
    have recorded : "second" ∈ releasedDb.processedEvents := List.mem_cons_self ..
    exact Reached.redelivery_harmless_iff_settled (.run run) (.order "order") recorded sampleIds sampleStamp
  · have taken := Concurrent.of_reachable reservedLedger_reachable
    have reached : Reached reservedDb := .concurrent rfl sampleStock_nonneg
      (taken.tail (.reply (sampleEnvelope "first" .reserveStock) (stockReservedReply "order" "saga") sampleStamp))
    exact reached.redelivery_harmless_iff_settled samplePayload (List.mem_singleton_self _) sampleIds sampleStamp

/-- The late duplicate of the reserve takes the stock again. -/
theorem redelivery_takes_released_stock : ∃ log db, Run log db ∧ "first" ∈ db.processedEvents ∧
    ∃ db', db.handleCommand (sampleEnvelope "first" .reserveStock) samplePayload (fun n => sampleIds (n + 1))
      sampleStamp = .ok db' ∧ ¬ db.Same db' := by
  obtain ⟨log, run⟩ := sampleRun
  have recorded : "first" ∈ releasedDb.processedEvents := List.mem_cons_of_mem _ (List.mem_cons_self ..)
  refine ⟨log, releasedDb, run, recorded, _, rfl, ?_⟩
  intro same
  have lengths := congrArg List.length same.reservations
  revert lengths
  decide

end FoodDelivery.InventoryService
