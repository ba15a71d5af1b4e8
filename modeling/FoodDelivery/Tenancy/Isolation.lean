import FoodDelivery.Inventory.Redelivery
import FoodDelivery.Inventory.Tenants
import FoodDelivery.Order.Tenants

namespace FoodDelivery.Tenancy

open Messaging OrderService InventoryService

/-- The databases of the order and the inventory service. -/
structure Databases where
  order : OrderStore
  inventory : InventoryService.Db

structure ListOrdersQuery where
  tenantId : Uuid
  userId : String
  limit : Nat

/-- What the two services execute for a tenant, with what they are told by the
catalog and the settings and the identifiers and times they draw. A
cancellation's release reaches the inventory service or is lost. -/
inductive Operation
  | placeOrder (placement : Placement) (now : Nat) (stamp : Stamp)
  | cancelOrder (command : OrderCommand) (delivered : Bool)
  | confirmOrder (command : OrderCommand)
  | getOrder (query : OrderCommand)
  | listOrders (query : ListOrdersQuery)
  | reply (source : ReplySource) (envelope : EventEnvelopeHeaders) (orderId : Uuid) (now : Nat) (stamp : Stamp)
  | replaySaga (tenantId orderId : Uuid)
  | recoverSaga (candidate : StrandedSagaCandidate) (maxAttempts : Nat) (randomUuid : Uuid) (now : Nat) (stamp : Stamp)
  | handleCommand (envelope : EventEnvelopeHeaders) (payload : Payload) (ids : Nat → Uuid) (stamp : Stamp)
  | reserveStock (command : ReserveStockCommand) (ids : Nat → Uuid)
  | releaseStock (command : ReleaseStockCommand)

inductive Answer
  | order (order : Order)
  | orders (orders : List Order)
  | replayed (outcome : OrderService.Db.ResetOutcome)
  | reserved (result : ReserveStockResult)
  | done
  deriving DecidableEq, Repr

inductive Failure
  | order (error : OrderError)
  | inventory (error : InventoryError)
  deriving DecidableEq, Repr

/-- The tenant an operation is executed for. -/
def Operation.tenantId : Operation → Uuid
  | .placeOrder placement _ _ => placement.command.tenantId
  | .cancelOrder command _ => command.tenantId
  | .confirmOrder command => command.tenantId
  | .getOrder query => query.tenantId
  | .listOrders query => query.tenantId
  | .reply _ envelope _ _ _ => envelope.tenantId
  | .replaySaga tenantId _ => tenantId
  | .recoverSaga candidate _ _ _ _ => candidate.tenantId
  | .handleCommand envelope _ _ _ => envelope.tenantId
  | .reserveStock command _ => command.tenantId
  | .releaseStock command => command.tenantId

namespace Databases

/-- What fails in a database leaves it as it was. -/
def onOrder {A : Type} (s : Databases) (answer : A → Answer) :
    Except OrderError (A × OrderService.Db) → Except Failure Answer × Databases
  | .ok (result, db) => (.ok (answer result), { s with order := { s.order with db } })
  | .error error => (.error (.order error), s)

def onInventory {A : Type} (s : Databases) (answer : A → Answer) :
    Except InventoryError (A × Inventory) → Except Failure Answer × Databases
  | .ok (result, inventory) => (.ok (answer result), { s with inventory := { s.inventory with inventory } })
  | .error error => (.error (.inventory error), s)

/-- The call that follows a cancellation; its failure is only logged. -/
def release (s : Databases) (command : OrderCommand) (delivered : Bool) : Databases :=
  if delivered then
    (s.onInventory (fun _ => .done) (ReleaseStockCommand.execute ⟨command.tenantId, command.orderId⟩
      s.inventory.inventory)).2
  else s

end Databases

/-- What an operation answers and what it leaves behind. -/
def Operation.execute (s : Databases) : Operation → Except Failure Answer × Databases
  | .placeOrder placement now stamp =>
    match s.order.placeOrder placement now stamp with
    | .ok (order, store) => (.ok (.order order), { s with order := store })
    | .error error => (.error (.order error), s)
  | .cancelOrder command delivered =>
    match OrderService.cancelOrder s.order.db command s.order.db with
    | .ok (saved, db) =>
      (.ok (.order saved), Databases.release { s with order := { s.order with db } } command delivered)
    | .error error => (.error (.order error), s)
  | .confirmOrder command => s.onOrder .order (OrderService.confirmOrder s.order.db command s.order.db)
  | .getOrder query => s.onOrder .order ((·, s.order.db) <$> s.order.getOrder query)
  | .listOrders query => (.ok (.orders (s.order.findRecentByTenant query.tenantId query.userId query.limit)), s)
  | .reply source envelope orderId now stamp =>
    s.onOrder (fun _ => .done) (((), ·) <$>
      source.execute { saga := s.order.db, order := s.order.db } envelope orderId now stamp s.order.db)
  | .replaySaga tenantId orderId => s.onOrder .replayed (.ok (s.order.db.resetReconcileAttempts tenantId orderId))
  | .recoverSaga candidate maxAttempts randomUuid now stamp =>
    s.onOrder (fun _ => .done) (.ok ((), recoverOne { saga := s.order.db, order := s.order.db } candidate maxAttempts
      randomUuid now stamp s.order.db))
  | .handleCommand envelope payload ids stamp =>
    match s.inventory.handleCommand envelope payload ids stamp with
    | .ok inventory => (.ok .done, { s with inventory })
    | .error error => (.error (.inventory error), s)
  | .reserveStock command ids => s.onInventory .reserved (command.execute ids s.inventory.inventory)
  | .releaseStock command => s.onInventory (fun _ => .done) (command.execute s.inventory.inventory)

namespace Databases

/-- Two states hold the same orders, order items, sagas, idempotency keys,
stock and reservations of a tenant. -/
structure SameRows (tenantId : Uuid) (s t : Databases) : Prop where
  order : s.order.db.SameRows tenantId t.order.db
  listing : OrderStore.SameListing tenantId s.order.listing t.order.listing
  inventory : s.inventory.inventory.SameRows tenantId t.inventory.inventory

theorem SameRows.trans {tenantId : Uuid} {s t u : Databases} (first : s.SameRows tenantId t) (last : t.SameRows tenantId u) :
    s.SameRows tenantId u :=
  ⟨.trans _ _ _ _ first.order last.order, first.listing.trans last.listing, .trans _ _ _ _ first.inventory last.inventory⟩

/-- The states agree on the rows of a tenant and on the processed events. -/
structure Agree (tenantId : Uuid) (s t : Databases) : Prop where
  rows : s.SameRows tenantId t
  order : ∀ eventId, eventId ∈ s.order.db.processedEvents ↔ eventId ∈ t.order.db.processedEvents
  inventory : ∀ eventId, eventId ∈ s.inventory.processedEvents ↔ eventId ∈ t.inventory.processedEvents

/-- Two states have come by the same new outbox entries, all of one tenant. -/
structure Appended (tenantId : Uuid) (s t s' t' : Databases) : Prop where
  order : Grown OutboxRow.tenantId tenantId s.order.db.outbox t.order.db.outbox s'.order.db.outbox t'.order.db.outbox
  inventory : Grown OutboxRow.tenantId tenantId s.inventory.outbox t.inventory.outbox s'.inventory.outbox
    t'.inventory.outbox

/-- The primary key of `reservations`. -/
def Keyed (s : Databases) : Prop := s.inventory.inventory.Distinct

/-- Two states some way into one tenant's operation. -/
structure Isolated (tenantId : Uuid) (base base' s t : Databases) : Prop where
  order : OrderStore.Isolated tenantId base.order base'.order s.order t.order
  inventory : InventoryService.Db.Isolated tenantId base.inventory base'.inventory s.inventory t.inventory

end Databases

/-- The identifiers an operation draws are its own: an order id no other
tenant's, a reservation id nobody's. -/
def Operation.Drawn (s : Databases) : Operation → Prop
  | .placeOrder placement _ _ => s.order.Drawn placement
  | .handleCommand _ _ ids _ => InventoryService.Drawn s.inventory.inventory ids
  | .reserveStock _ ids => InventoryService.Drawn s.inventory.inventory ids
  | _ => True

namespace Databases

variable {tenantId : Uuid} {base base' s t : Databases}

theorem Agree.isolated (agree : s.Agree tenantId t) : Isolated tenantId s t s t := by
  refine ⟨⟨.start agree.rows.order agree.order, .start (fun _ _ => rfl) agree.rows.listing⟩, ?_⟩
  exact ⟨.start Inventory.SameRows.refl agree.rows.inventory, agree.inventory, .refl _ _⟩

theorem Isolated.agree (isolated : Isolated tenantId base base' s t) : s.Agree tenantId t :=
  ⟨⟨isolated.order.db.rows.own, isolated.order.listing.own, isolated.inventory.inventory.own⟩,
    isolated.order.db.processed, isolated.inventory.processed⟩

theorem Isolated.others (isolated : Isolated tenantId base base' s t) {other : Uuid} (different : other ≠ tenantId) :
    base.SameRows other s :=
  ⟨isolated.order.db.rows.others other different, isolated.order.listing.others other different,
    isolated.inventory.inventory.others other different⟩

theorem Isolated.appended (isolated : Isolated tenantId base base' s t) : Appended tenantId base base' s t :=
  ⟨isolated.order.db.outbox, isolated.inventory.outbox⟩

theorem Agree.refl (tenantId : Uuid) (s : Databases) : s.Agree tenantId s :=
  ⟨⟨.refl _ _, rfl, .refl _ _⟩, fun _ => Iff.rfl, fun _ => Iff.rfl⟩

/-- What a step of the order service alone amounts to. -/
theorem Isolated.onOrder {A : Type} (isolated : Isolated tenantId base base' s t) (answer : A → Answer)
    {x y : Except OrderError (A × OrderService.Db)} (related : Except.Related (fun a b => a.1 = b.1 ∧
      OrderService.Db.Isolated tenantId base.order.db base'.order.db a.2 b.2) x y) :
    (s.onOrder answer x).1 = (t.onOrder answer y).1 ∧
      Isolated tenantId base base' (s.onOrder answer x).2 (t.onOrder answer y).2 := by
  cases related with
  | ok results => exact ⟨congrArg (Except.ok ∘ answer) results.1, isolated.order.setDb results.2, isolated.inventory⟩
  | error error => exact ⟨rfl, isolated⟩

theorem Isolated.onInventory {A : Type} (isolated : Isolated tenantId base base' s t) (answer : A → Answer)
    {x y : Except InventoryError (A × Inventory)} (related : Except.Related (fun a b => a.1 = b.1 ∧
      Inventory.Isolated tenantId base.inventory.inventory base'.inventory.inventory a.2 b.2) x y) :
    (s.onInventory answer x).1 = (t.onInventory answer y).1 ∧
      Isolated tenantId base base' (s.onInventory answer x).2 (t.onInventory answer y).2 := by
  cases related with
  | ok results =>
    have moved := isolated.inventory
    exact ⟨congrArg (Except.ok ∘ answer) results.1, isolated.order, results.2, moved.processed, moved.outbox⟩
  | error error => exact ⟨rfl, isolated⟩

theorem Isolated.release (isolated : Isolated tenantId base base' s t) {command : OrderCommand}
    (mine : command.tenantId = tenantId) (delivered : Bool) (keyed : s.Keyed) (keyed' : t.Keyed) :
    Isolated tenantId base base' (s.release command delivered) (t.release command delivered) := by
  subst mine
  unfold Databases.release
  split
  · exact (isolated.onInventory _ (ReleaseStockCommand.execute_isolated ⟨command.tenantId, command.orderId⟩
      isolated.inventory.inventory keyed keyed')).2
  · exact isolated

theorem onOrder_inventory {A : Type} (s : Databases) (answer : A → Answer)
    (result : Except OrderError (A × OrderService.Db)) : (s.onOrder answer result).2.inventory = s.inventory := by
  cases result <;> rfl

end Databases

open Databases

variable {base base' s t : Databases} {op : Operation}

/-- One operation in two states that its tenant cannot tell apart: it answers
the same and leaves two such states behind. -/
theorem Operation.isolated (isolated : Isolated op.tenantId base base' s t) (drawn : op.Drawn s) (drawn' : op.Drawn t)
    (keyed : s.Keyed) (keyed' : t.Keyed) :
    (op.execute s).1 = (op.execute t).1 ∧ Isolated op.tenantId base base' (op.execute s).2 (op.execute t).2 := by
  have same := isolated.order.db.rows.own
  cases op with
  | placeOrder placement now stamp =>
    have places := isolated.order.placeOrder drawn drawn' now stamp
    rw [execute, execute]
    generalize s.order.placeOrder placement now stamp = placed at places ⊢
    generalize t.order.placeOrder placement now stamp = placed' at places ⊢
    cases places with
    | ok results => exact ⟨congrArg (Except.ok ∘ Answer.order) results.1, results.2, isolated.inventory⟩
    | error error => exact ⟨rfl, isolated⟩
  | cancelOrder command delivered =>
    have cancels := cancelOrder_isolated same isolated.order.db
    rw [execute, execute]
    generalize OrderService.cancelOrder s.order.db command s.order.db = cancelled at cancels ⊢
    generalize OrderService.cancelOrder t.order.db command t.order.db = cancelled' at cancels ⊢
    cases cancels with
    | @ok a b results =>
      have moved : Isolated command.tenantId base base' { s with order := { s.order with db := a.2 } }
        { t with order := { t.order with db := b.2 } } := ⟨isolated.order.setDb results.2, isolated.inventory⟩
      exact ⟨congrArg (Except.ok ∘ Answer.order) results.1, moved.release rfl delivered keyed keyed'⟩
    | error error => exact ⟨rfl, isolated⟩
  | confirmOrder command => exact isolated.onOrder _ (confirmOrder_isolated same isolated.order.db)
  | getOrder query =>
    refine isolated.onOrder _ ?_
    rw [isolated.order.getOrder]
    cases t.order.getOrder query with
    | ok order => exact .ok ⟨rfl, isolated.order.db⟩
    | error error => exact .error error
  | listOrders query =>
    have lists : s.order.findRecentByTenant query.tenantId query.userId query.limit =
        t.order.findRecentByTenant query.tenantId query.userId query.limit :=
      isolated.order.findRecentByTenant query.userId query.limit
    exact ⟨congrArg (Except.ok ∘ Answer.orders) lists, isolated⟩
  | reply source envelope orderId now stamp =>
    refine isolated.onOrder _ ?_
    have reads : Reads.SameRows envelope.tenantId { saga := s.order.db, order := s.order.db }
      { saga := t.order.db, order := t.order.db } := ⟨same, same⟩
    have replies := source.isolated reads isolated.order.db orderId now stamp
    generalize source.execute _ envelope orderId now stamp s.order.db = replied at replies ⊢
    generalize source.execute _ envelope orderId now stamp t.order.db = replied' at replies ⊢
    cases replies with
    | ok results => exact .ok ⟨rfl, results⟩
    | error error => exact .error error
  | replaySaga tenantId orderId => exact isolated.onOrder _ (.ok (isolated.order.db.resetReconcileAttempts orderId))
  | recoverSaga candidate maxAttempts randomUuid now stamp =>
    exact isolated.onOrder _ (.ok ⟨rfl, recoverOne_isolated isolated.order.db maxAttempts randomUuid now stamp⟩)
  | handleCommand envelope payload ids stamp =>
    have handles := isolated.inventory.handleCommand keyed keyed' payload ids stamp
    rw [execute, execute]
    generalize s.inventory.handleCommand envelope payload ids stamp = handled at handles ⊢
    generalize t.inventory.handleCommand envelope payload ids stamp = handled' at handles ⊢
    cases handles with
    | ok results => exact ⟨rfl, isolated.order, results⟩
    | error error => exact ⟨rfl, isolated⟩
  | reserveStock command ids => exact isolated.onInventory _ (command.execute_isolated isolated.inventory.inventory ids)
  | releaseStock command =>
    exact isolated.onInventory _ (command.execute_isolated isolated.inventory.inventory keyed keyed')

theorem Databases.Keyed.onRelease (keyed : s.Keyed) (answer : Unit → Answer) (command : ReleaseStockCommand) :
    (s.onInventory answer (command.execute s.inventory.inventory)).2.Keyed := by
  cases ended : command.execute s.inventory.inventory with
  | ok results => exact ReleaseStockCommand.execute_distinct keyed ended
  | error error => exact keyed

theorem Databases.Keyed.release (keyed : s.Keyed) (command : OrderCommand) (delivered : Bool) :
    (s.release command delivered).Keyed := by
  unfold Databases.release
  split
  · exact keyed.onRelease _ _
  · exact keyed

theorem Operation.keyed (drawn : op.Drawn s) (keyed : s.Keyed) : (op.execute s).2.Keyed := by
  have ordered {A : Type} (answer : A → Answer) (result : Except OrderError (A × OrderService.Db)) :
      (s.onOrder answer result).2.Keyed := by
    rw [Databases.Keyed, s.onOrder_inventory]
    exact keyed
  cases op with
  | placeOrder placement now stamp =>
    rw [execute]
    split <;> exact keyed
  | cancelOrder command delivered =>
    rw [execute]
    split
    · rename_i saved db _
      have moved : Databases.Keyed { s with order := { s.order with db } } := keyed
      exact moved.release command delivered
    · exact keyed
  | confirmOrder command => exact ordered _ _
  | getOrder query => exact ordered _ _
  | listOrders query => exact keyed
  | reply source envelope orderId now stamp => exact ordered _ _
  | replaySaga tenantId orderId => exact ordered _ _
  | recoverSaga candidate maxAttempts randomUuid now stamp => exact ordered _ _
  | handleCommand envelope payload ids stamp =>
    rw [execute]
    split
    · rename_i handled
      exact InventoryService.Db.handleCommand_distinct drawn keyed handled
    · exact keyed
  | reserveStock command ids =>
    rw [execute]
    cases ended : command.execute ids s.inventory.inventory with
    | ok results => exact ReserveStockCommand.execute_distinct drawn keyed ended
    | error error => exact keyed
  | releaseStock command => exact keyed.onRelease _ command

theorem Operation.others (drawn : op.Drawn s) (keyed : s.Keyed) {tenantId : Uuid} (different : tenantId ≠ op.tenantId) :
    s.SameRows tenantId (op.execute s).2 :=
  (op.isolated (Agree.refl op.tenantId s).isolated drawn drawn keyed keyed).2.others different

/-- Operations one after the other, whoever they are for. -/
def Databases.run (s : Databases) : List Operation → Databases
  | [] => s
  | op :: rest => Databases.run (op.execute s).2 rest

/-- Each operation draws identifiers of its own, where it is executed. -/
def Databases.Draws (s : Databases) : List Operation → Prop
  | [] => True
  | op :: rest => op.Drawn s ∧ Databases.Draws (op.execute s).2 rest

/-- Whatever the other tenants do, a tenant's rows stay as they are. -/
theorem Databases.Keyed.run_others {ops : List Operation} {tenantId : Uuid} (keyed : s.Keyed) (draws : s.Draws ops)
    (others : ∀ op ∈ ops, tenantId ≠ op.tenantId) : s.SameRows tenantId (s.run ops) := by
  induction ops generalizing s with
  | nil => exact (Agree.refl tenantId s).rows
  | cons op rest ih =>
    have first := Operation.others draws.1 keyed (others op (List.mem_cons_self ..))
    have last := ih (Operation.keyed draws.1 keyed) draws.2 fun op member => others op (List.mem_cons_of_mem _ member)
    exact first.trans last

/-- An operation leaves the rows of every other tenant as they were and tells
of its own tenant only; and what it answers and makes of its tenant's rows is
decided by these rows and the processed events. -/
theorem Operation.isolates_tenants (op : Operation) (s : Databases) (drawn : op.Drawn s) (keyed : s.Keyed) :
    (∀ tenantId, tenantId ≠ op.tenantId → s.SameRows tenantId (op.execute s).2) ∧
    Appended op.tenantId s s (op.execute s).2 (op.execute s).2 ∧
    ∀ t, op.Drawn t → t.Keyed → s.Agree op.tenantId t →
      (op.execute s).1 = (op.execute t).1 ∧ (op.execute s).2.Agree op.tenantId (op.execute t).2 ∧
        Appended op.tenantId s t (op.execute s).2 (op.execute t).2 := by
  have alone := (op.isolated (Agree.refl op.tenantId s).isolated drawn drawn keyed keyed).2
  refine ⟨fun tenantId different => Operation.others drawn keyed different, alone.appended, ?_⟩
  intro t drawn' keyed' agree
  obtain ⟨answers, moved⟩ := op.isolated agree.isolated drawn drawn' keyed keyed'
  exact ⟨answers, moved.agree, moved.appended⟩

section sample

/-- One tenant has placed an order and holds stock for it. -/
def sampleDatabases : Databases where
  order := (OrderStore.placeOrder { db := OrderService.Db.empty, listing := [] } .sample 0
    { id := "reserve", correlationId := "correlation" }).toOption.map (·.2) |>.getD
      { db := OrderService.Db.empty, listing := [] }
  inventory := reservedDb

/-- Another tenant's order, under the same idempotency key. -/
def otherPlacement : Placement :=
  { Placement.sample with command := { Placement.sample.command with tenantId := "other" }, orderId := "second" }

end sample

theorem isolates_tenants_of_other_sample :
    let op : Operation := .placeOrder otherPlacement 1 { id := "second-reserve", correlationId := "correlation" }
    (∀ tenantId, tenantId ≠ "other" → sampleDatabases.SameRows tenantId (op.execute sampleDatabases).2) ∧
    Appended "other" sampleDatabases sampleDatabases (op.execute sampleDatabases).2 (op.execute sampleDatabases).2 ∧
    ∀ t, op.Drawn t → t.Keyed → sampleDatabases.Agree "other" t →
      (op.execute sampleDatabases).1 = (op.execute t).1 ∧
        (op.execute sampleDatabases).2.Agree "other" (op.execute t).2 ∧
        Appended "other" sampleDatabases t (op.execute sampleDatabases).2 (op.execute t).2 := by
  intro op
  have drawn : op.Drawn sampleDatabases := by
    constructor
    · intro row found
      cases found
    · intro row found
      cases found
  have keyed : sampleDatabases.Keyed := List.nodup_singleton _
  exact op.isolates_tenants sampleDatabases drawn keyed

end FoodDelivery.Tenancy
