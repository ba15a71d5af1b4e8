import FoodDelivery.Lib.Owned
import FoodDelivery.Lib.Related
import FoodDelivery.Order.Placing

namespace FoodDelivery.OrderService

open Messaging

/-- The columns of an `orders` row that a listing selects and sorts by. -/
structure OrderListing where
  id : Uuid
  tenantId : Uuid
  userId : String
  createdAt : Nat
  deriving DecidableEq, Repr

/-- The order service's database with its `orders` in the order of their inserts. -/
structure OrderStore where
  db : Db
  listing : List OrderListing

/-- `loadExisting`. -/
def Db.loadExisting (db : Db) (command : PlaceOrderCommand) (orderId : Uuid) : Except OrderError Order :=
  match db.findById command.tenantId orderId with
  | some order => pure order
  | none => throw (Placing.conflict command)

def Db.resolveConcurrentClaim (db : Db) (command : PlaceOrderCommand) : Except OrderError Order :=
  match db.findOrderId command.claim with
  | some winningOrderId => db.loadExisting command winningOrderId
  | none => throw (Placing.conflict command)

namespace OrderStore

/-- `PlaceOrderHandler.execute` on its own, from the lookup of its key to the
transaction, and the lookup again where a unique index refuses that. -/
def placeOrder (store : OrderStore) (placement : Placement) (now : Nat) (stamp : Stamp) :
    Except OrderError (Order × OrderStore) := do
  assertValidCommand placement.command
  match store.db.findOrderId placement.command.claim with
  | some existingOrderId =>
    let order ← store.db.loadExisting placement.command existingOrderId
    return (order, store)
  | none =>
    let order ← placement.command.pendingOrder placement.menuItems placement.pricing placement.orderId
    match placement.command.claimAndInsert order placement.correlationId now stamp store.db with
    | .ok db =>
      let listing := { id := order.id, tenantId := order.tenantId, userId := order.userId, createdAt := now }
      return (order, { db, listing := store.listing ++ [listing] })
    | .error .uniqueViolation =>
      let order ← store.db.resolveConcurrentClaim placement.command
      return (order, store)
    | .error error => throw error

/-- `GetOrderHandler.execute`. -/
def getOrder (store : OrderStore) (query : OrderCommand) : Except OrderError Order := do
  let order ← loadOrder store.db query.tenantId query.orderId
  assertOrderOwnership order query.userId query.roles
  return order

/-- The newest first, and of those placed at one moment the greatest id. -/
def recentFirst (first last : OrderListing) : Bool :=
  last.createdAt < first.createdAt || first.createdAt = last.createdAt && last.id ≤ first.id

/-- `findRecentByTenant`: each listed row is read under the condition that selected it. -/
def findRecentByTenant (store : OrderStore) (tenantId : Uuid) (userId : String) (limit : Nat) : List Order :=
  let rows := store.listing.filter fun row => row.tenantId = tenantId ∧ row.userId = userId
  ((rows.mergeSort recentFirst).take limit).filterMap fun row => store.db.findById tenantId row.id

end OrderStore

namespace Db

/-- Two databases hold the same rows of a tenant: its orders with their items,
its sagas and its idempotency keys. -/
structure SameRows (tenantId : Uuid) (db db' : Db) : Prop where
  orders : Table.Shares Order.tenantId tenantId db.orders db'.orders
  sagas : Table.Shares OrderSaga.tenantId tenantId db.sagas db'.sagas
  keys : Table.Shares (fun row => row.claim.tenantId) tenantId db.idempotencyKeys db'.idempotencyKeys

theorem SameRows.refl (tenantId : Uuid) (db : Db) : db.SameRows tenantId db := ⟨.refl _, .refl _, .refl _⟩

theorem SameRows.trans (tenantId : Uuid) (a b c : Db) (first : a.SameRows tenantId b) (last : b.SameRows tenantId c) :
    a.SameRows tenantId c :=
  ⟨first.orders.trans last.orders, first.sagas.trans last.sagas, first.keys.trans last.keys⟩

/-- Two databases some way into one tenant's operation: they agree on the
tenant's rows and on the processed events, both have appended the same outbox
entries, all the tenant's, and neither has touched a row of another tenant. -/
structure Isolated (tenantId : Uuid) (base base' db db' : Db) : Prop where
  rows : Apart SameRows tenantId base base' db db'
  processed : ∀ eventId, eventId ∈ db.processedEvents ↔ eventId ∈ db'.processedEvents
  outbox : Grown OutboxRow.tenantId tenantId base.outbox base'.outbox db.outbox db'.outbox

section lookups

variable {tenantId : Uuid} {db db' : Db}

theorem SameRows.findById (same : db.SameRows tenantId db') (id : Uuid) :
    db.findById tenantId id = db'.findById tenantId id := same.orders id

theorem SameRows.findByOrderId (same : db.SameRows tenantId db') (orderId : Uuid) :
    db.findByOrderId tenantId orderId = db'.findByOrderId tenantId orderId := same.sagas orderId

/-- A tenant's idempotency keys stand apart from all others: it is part of the key. -/
theorem keys_held {claim : IdempotencyKey} (db : Db) (mine : claim.tenantId = tenantId) :
    db.idempotencyKeys.HeldBy (fun row => row.claim.tenantId) tenantId claim := by
  intro row found
  have atClaim : row.claim = claim := db.idempotencyKeys.keyed claim row found
  exact (congrArg IdempotencyKey.tenantId atClaim).trans mine

theorem SameRows.findClaim (same : db.SameRows tenantId db') {claim : IdempotencyKey} (mine : claim.tenantId = tenantId) :
    db.idempotencyKeys.find claim = db'.idempotencyKeys.find claim :=
  same.keys.find (db.keys_held mine) (db'.keys_held mine)

theorem SameRows.findOrderId (same : db.SameRows tenantId db') {claim : IdempotencyKey}
    (mine : claim.tenantId = tenantId) : db.findOrderId claim = db'.findOrderId claim := by
  rw [Db.findOrderId, Db.findOrderId, same.findClaim mine]

theorem SameRows.loadOrder (same : db.SameRows tenantId db') (orderId : Uuid) :
    loadOrder db tenantId orderId = OrderService.loadOrder db' tenantId orderId := by
  unfold OrderService.loadOrder
  rw [same.findById]

theorem SameRows.loadExisting (same : db.SameRows tenantId db') {command : PlaceOrderCommand}
    (mine : command.tenantId = tenantId) (orderId : Uuid) :
    db.loadExisting command orderId = db'.loadExisting command orderId := by
  unfold Db.loadExisting
  rw [mine, same.findById]

theorem SameRows.resolveConcurrentClaim (same : db.SameRows tenantId db') {command : PlaceOrderCommand}
    (mine : command.tenantId = tenantId) : db.resolveConcurrentClaim command = db'.resolveConcurrentClaim command := by
  unfold Db.resolveConcurrentClaim
  rw [same.findOrderId mine]
  split
  · exact same.loadExisting mine _
  · rfl

end lookups

namespace Isolated

variable {tenantId : Uuid} {base base' db db' : Db}

theorem start (same : db.SameRows tenantId db')
    (processed : ∀ eventId, eventId ∈ db.processedEvents ↔ eventId ∈ db'.processedEvents) :
    Isolated tenantId db db' db db' :=
  ⟨.start SameRows.refl same, processed, .refl _ _⟩

/-- A write of one order of the tenant. -/
theorem putOrder (isolated : Isolated tenantId base base' db db') {row : Order} (mine : row.tenantId = tenantId)
    (held : db.orders.HeldBy Order.tenantId tenantId row.id) (held' : db'.orders.HeldBy Order.tenantId tenantId row.id) :
    Isolated tenantId base base' { db with orders := db.orders.put row } { db' with orders := db'.orders.put row } := by
  refine ⟨isolated.rows.move SameRows.trans ?_ ?_ ?_, isolated.processed, isolated.outbox⟩
  · exact fun same => ⟨same.orders.put row, same.sagas, same.keys⟩
  · exact fun b other => ⟨.put_other held mine other, .refl _, .refl _⟩
  · exact fun b other => ⟨.put_other held' mine other, .refl _, .refl _⟩

theorem putSaga (isolated : Isolated tenantId base base' db db') {row : OrderSaga} (mine : row.tenantId = tenantId)
    (held : db.sagas.HeldBy OrderSaga.tenantId tenantId row.orderId)
    (held' : db'.sagas.HeldBy OrderSaga.tenantId tenantId row.orderId) :
    Isolated tenantId base base' { db with sagas := db.sagas.put row } { db' with sagas := db'.sagas.put row } := by
  refine ⟨isolated.rows.move SameRows.trans ?_ ?_ ?_, isolated.processed, isolated.outbox⟩
  · exact fun same => ⟨same.orders, same.sagas.put row, same.keys⟩
  · exact fun b other => ⟨.refl _, .put_other held mine other, .refl _⟩
  · exact fun b other => ⟨.refl _, .put_other held' mine other, .refl _⟩

theorem save (isolated : Isolated tenantId base base' db db') {claim : IdempotencyKey} (mine : claim.tenantId = tenantId)
    (orderId : Uuid) : Except.Related (Isolated tenantId base base') (db.save claim orderId) (db'.save claim orderId) := by
  unfold Db.save
  rw [isolated.rows.own.findClaim mine]
  split
  · refine .ok ⟨isolated.rows.move SameRows.trans ?_ ?_ ?_, isolated.processed, isolated.outbox⟩
    · exact fun same => ⟨same.orders, same.sagas, same.keys.put _⟩
    · exact fun b other => ⟨.refl _, .refl _, .put_other (db.keys_held mine) mine other⟩
    · exact fun b other => ⟨.refl _, .refl _, .put_other (db'.keys_held mine) mine other⟩
  · exact .error _

theorem insertOrder (isolated : Isolated tenantId base base' db db') {order : Order} (mine : order.tenantId = tenantId)
    (held : db.orders.HeldBy Order.tenantId tenantId order.id)
    (held' : db'.orders.HeldBy Order.tenantId tenantId order.id) :
    Except.Related (Isolated tenantId base base') (db.insertOrder order) (db'.insertOrder order) := by
  unfold Db.insertOrder
  rw [isolated.rows.own.orders.find held held']
  split
  · exact .ok (isolated.putOrder mine held held')
  · exact .error _

theorem insertSaga (isolated : Isolated tenantId base base' db db') {saga : OrderSaga} (mine : saga.tenantId = tenantId)
    (held : db.sagas.HeldBy OrderSaga.tenantId tenantId saga.orderId)
    (held' : db'.sagas.HeldBy OrderSaga.tenantId tenantId saga.orderId) :
    Except.Related (Isolated tenantId base base') (db.insertSaga saga) (db'.insertSaga saga) := by
  unfold Db.insertSaga
  rw [isolated.rows.own.sagas.find held held']
  split
  · exact .ok (isolated.putSaga mine held held')
  · exact .error _

/-- The guard of an update asks for the tenant, so that it only meets rows of it. -/
theorem updateStatus (isolated : Isolated tenantId base base' db db') {order : Order} (mine : order.tenantId = tenantId) :
    Except.Related (fun a b => a.1 = b.1 ∧ Isolated tenantId base base' a.2 b.2)
      (db.updateStatus order) (db'.updateStatus order) := by
  have same := isolated.rows.own.orders.filter order.id fun row => row.version = order.version
  unfold Db.updateStatus
  rw [mine, same]
  split
  · rename_i row found'
    have found := same.trans found'
    simp only [Option.filter_eq_some_iff, decide_eq_true_eq] at found found'
    exact .ok ⟨rfl, isolated.putOrder found.2.1 (.of_find found.1 found.2.1 rfl) (.of_find found'.1 found.2.1 rfl)⟩
  · exact .error _

theorem transition (isolated : Isolated tenantId base base' db db') {saga : OrderSaga} (mine : saga.tenantId = tenantId)
    (now : Nat) : Except.Related (fun a b => a.1 = b.1 ∧ Isolated tenantId base base' a.2 b.2)
      (db.transition saga now) (db'.transition saga now) := by
  have same := isolated.rows.own.sagas.filter saga.orderId fun row => row.version = saga.version
  unfold Db.transition
  rw [mine, same]
  split
  · rename_i row found'
    have found := same.trans found'
    simp only [Option.filter_eq_some_iff, decide_eq_true_eq] at found found'
    exact .ok ⟨rfl, isolated.putSaga found.2.1 (.of_find found.1 found.2.1 rfl) (.of_find found'.1 found.2.1 rfl)⟩
  · exact .error _

theorem resetReconcileAttempts (isolated : Isolated tenantId base base' db db') (orderId : Uuid) :
    (db.resetReconcileAttempts tenantId orderId).1 = (db'.resetReconcileAttempts tenantId orderId).1 ∧
      Isolated tenantId base base' (db.resetReconcileAttempts tenantId orderId).2
        (db'.resetReconcileAttempts tenantId orderId).2 := by
  have same := isolated.rows.own.sagas.filter orderId fun row => row.state ∈ nonTerminalSagaStates
  unfold Db.resetReconcileAttempts
  rw [same]
  split
  · rename_i row found'
    have found := same.trans found'
    simp only [Option.filter_eq_some_iff, decide_eq_true_eq] at found found'
    exact ⟨rfl, isolated.putSaga found.2.1 (.of_find found.1 found.2.1 rfl) (.of_find found'.1 found.2.1 rfl)⟩
  · rw [isolated.rows.own.findByOrderId]
    exact ⟨rfl, isolated⟩

/-- The guard of the reaper's update asks for no tenant: its caller has read
the saga as one of the tenant. -/
theorem recordReconcileAttempt (isolated : Isolated tenantId base base' db db') {orderId : Uuid} (state : SagaState)
    (now : Nat) (held : db.sagas.HeldBy OrderSaga.tenantId tenantId orderId)
    (held' : db'.sagas.HeldBy OrderSaga.tenantId tenantId orderId) : Except.Related (Isolated tenantId base base')
      (db.recordReconcileAttempt orderId state now) (db'.recordReconcileAttempt orderId state now) := by
  have same := isolated.rows.own.sagas.find held held'
  unfold Db.recordReconcileAttempt
  rw [same]
  split
  · rename_i row found'
    have atRow' := (Option.filter_eq_some_iff.mp found').1
    have atRow := same.trans atRow'
    have mine := held row atRow
    exact .ok (isolated.putSaga mine (.of_find atRow mine rfl) (.of_find atRow' mine rfl))
  · exact .error _

/-- What is appended or recorded touches no row. -/
theorem untouched (isolated : Isolated tenantId base base' db db') (outbox outbox' : List OutboxRow)
    (processedEvents processedEvents' : List Uuid) : Apart SameRows tenantId base base'
      { db with outbox, processedEvents } { db' with outbox := outbox', processedEvents := processedEvents' } := by
  refine isolated.rows.move SameRows.trans ?_ ?_ ?_
  · exact fun same => ⟨same.orders, same.sagas, same.keys⟩
  · exact fun b _ => ⟨.refl _, .refl _, .refl _⟩
  · exact fun b _ => ⟨.refl _, .refl _, .refl _⟩

theorem append (isolated : Isolated tenantId base base' db db') (entry : OutboxCommandEntry) (stamp : Stamp) :
    Isolated tenantId base base' (db.append entry tenantId stamp) (db'.append entry tenantId stamp) :=
  ⟨isolated.untouched _ _ _ _, isolated.processed, isolated.outbox.append rfl⟩

/-- The event is recorded in both databases or in none. -/
theorem runOnce (isolated : Isolated tenantId base base' db db') (eventId : Uuid) {work work' : Db → Except OrderError Db}
    (works : ∀ {db db'}, Isolated tenantId base base' db db' →
      Except.Related (Isolated tenantId base base') (work db) (work' db')) :
    Except.Related (Isolated tenantId base base') (db.runOnce eventId work) (db'.runOnce eventId work') := by
  unfold Db.runOnce
  have recorded := isolated.processed eventId
  by_cases member : eventId ∈ db'.processedEvents
  · rw [if_pos member, if_pos (recorded.mpr member)]
    exact .ok isolated
  · rw [if_neg member, if_neg (mt recorded.mp member)]
    refine works ⟨isolated.untouched _ _ _ _, fun other => ?_, isolated.outbox⟩
    rw [List.mem_cons, List.mem_cons, isolated.processed other]

end Isolated

end Db

section handlers

open Db

variable {tenantId : Uuid} {base base' db db' : Db} {reads reads' : Reads} {envelope : EventEnvelopeHeaders}

/-- The selects of two transactions saw the same rows of a tenant. -/
structure Reads.SameRows (tenantId : Uuid) (reads reads' : Reads) : Prop where
  saga : reads.saga.SameRows tenantId reads'.saga
  order : reads.order.SameRows tenantId reads'.order

/-- A move changes no owner. -/
theorem Order.transitionTo_tenantId {order next : Order} {status : OrderStatus}
    (run : order.transitionTo status = .ok next) : next.tenantId = order.tenantId := by
  obtain ⟨-, rfl⟩ := Order.transitionTo_ok.mp run
  rfl

theorem OrderSaga.transition_tenantId {saga moved : OrderSaga} {state : SagaState} {event : Uuid}
    (run : saga.transition state event = .ok moved) : moved.tenantId = saga.tenantId := by
  obtain ⟨-, rfl⟩ := OrderSaga.transition_ok.mp run
  rfl

/-- The common part of the handlers, on an order and a saga of the tenant. -/
theorem Db.Isolated.advance (isolated : Isolated tenantId base base' db db') {order : Order} {saga : OrderSaga}
    (orderMine : order.tenantId = tenantId) (sagaMine : saga.tenantId = tenantId) (status : OrderStatus)
    (state : SagaState) (event : Uuid) (entry : OutboxCommandEntry) (now : Nat) (stamp : Stamp) :
    Except.Related (Isolated tenantId base base')
      (do
        let next ← order.transitionTo status
        let updated ← db.updateStatus next
        let moved ← saga.transition state event
        let transitioned ← updated.2.transition moved now
        return transitioned.2.append entry tenantId stamp)
      (do
        let next ← order.transitionTo status
        let updated ← db'.updateStatus next
        let moved ← saga.transition state event
        let transitioned ← updated.2.transition moved now
        return transitioned.2.append entry tenantId stamp) := by
  refine .bind_same _ fun next advanced => ?_
  have nextMine : next.tenantId = tenantId := (Order.transitionTo_tenantId advanced).trans orderMine
  refine (isolated.updateStatus nextMine).bind fun _ _ ⟨_, updated⟩ => ?_
  refine .bind_same _ fun moved move => ?_
  have movedMine : moved.tenantId = tenantId := (OrderSaga.transition_tenantId move).trans sagaMine
  refine (updated.transition movedMine now).bind fun _ _ ⟨_, transitioned⟩ => ?_
  exact .ok (transitioned.append entry stamp)

/-- A handler that goes on with the order it loads. -/
theorem Db.SameRows.load_bind {β : Type} {R : β → β → Prop} {read read' : Db} (same : read.SameRows tenantId read')
    (orderId : Uuid) {f g : Order → Except OrderError β}
    (next : ∀ order, order.tenantId = tenantId → Except.Related R (f order) (g order)) :
    Except.Related R (OrderService.loadOrder read tenantId orderId >>= f)
      (OrderService.loadOrder read' tenantId orderId >>= g) := by
  rw [same.loadOrder]
  exact .bind_same _ fun order loaded => next order (loadOrder_ok.mp loaded).2

theorem HandleInventoryReply.isolated (same : reads.SameRows envelope.tenantId reads')
    (isolated : Isolated envelope.tenantId base base' db db') (orderId : Uuid) (now : Nat) (stamp : Stamp) :
    Except.Related (Isolated envelope.tenantId base base') (HandleInventoryReply.execute reads envelope orderId now stamp db)
      (HandleInventoryReply.execute reads' envelope orderId now stamp db') := by
  refine isolated.runOnce envelope.eventId fun {db db'} isolated => ?_
  unfold HandleInventoryReply.apply
  rw [same.saga.findByOrderId]
  split
  · exact .error _
  · rename_i saga found
    have mine : saga.tenantId = envelope.tenantId := (findByOrderId_some.mp found).2
    split
    · split
      · exact .ok isolated
      · exact same.order.load_bind orderId fun order owned => isolated.advance owned mine _ _ _ _ now stamp
    · split
      · exact .ok isolated
      · exact same.order.load_bind orderId fun order owned => isolated.advance owned mine _ _ _ _ now stamp
    · split
      · exact .ok isolated
      · exact same.order.load_bind orderId fun order owned => isolated.advance owned mine _ _ _ _ now stamp
    · exact .ok isolated

theorem HandlePaymentReply.isolated (same : reads.SameRows envelope.tenantId reads')
    (isolated : Isolated envelope.tenantId base base' db db') (orderId : Uuid) (now : Nat) (stamp : Stamp) :
    Except.Related (Isolated envelope.tenantId base base') (HandlePaymentReply.execute reads envelope orderId now stamp db)
      (HandlePaymentReply.execute reads' envelope orderId now stamp db') := by
  refine isolated.runOnce envelope.eventId fun {db db'} isolated => ?_
  unfold HandlePaymentReply.apply
  rw [same.saga.findByOrderId]
  split
  · exact .error _
  · rename_i saga found
    have mine : saga.tenantId = envelope.tenantId := (findByOrderId_some.mp found).2
    split
    · exact .ok isolated
    · split
      · exact same.order.load_bind orderId fun order owned => isolated.advance owned mine _ _ _ _ now stamp
      · refine .bind_same _ fun moved move => ?_
        have movedMine : moved.tenantId = envelope.tenantId := (OrderSaga.transition_tenantId move).trans mine
        refine (isolated.transition movedMine now).bind fun _ _ ⟨_, transitioned⟩ => ?_
        exact .ok (transitioned.append _ stamp)
      · exact .ok isolated

theorem ReplySource.isolated (source : ReplySource) (same : reads.SameRows envelope.tenantId reads')
    (isolated : Isolated envelope.tenantId base base' db db') (orderId : Uuid) (now : Nat) (stamp : Stamp) :
    Except.Related (Isolated envelope.tenantId base base') (source.execute reads envelope orderId now stamp db)
      (source.execute reads' envelope orderId now stamp db') := by
  cases source with
  | inventory => exact HandleInventoryReply.isolated same isolated orderId now stamp
  | payment => exact HandlePaymentReply.isolated same isolated orderId now stamp

/-- Cancelling and confirming: the loaded order, once its caller is known to
own it, is moved to another status. -/
theorem Db.Isolated.move (isolated : Isolated tenantId base base' db db') {read read' : Db}
    (same : read.SameRows tenantId read') (command : OrderCommand) (status : OrderStatus) :
    Except.Related (fun a b => a.1 = b.1 ∧ Isolated tenantId base base' a.2 b.2)
      (do
        let order ← loadOrder read tenantId command.orderId
        assertOrderOwnership order command.userId command.roles
        let next ← order.transitionTo status
        db.updateStatus next)
      (do
        let order ← loadOrder read' tenantId command.orderId
        assertOrderOwnership order command.userId command.roles
        let next ← order.transitionTo status
        db'.updateStatus next) := by
  refine same.load_bind command.orderId fun order owned => ?_
  refine .bind_same _ fun _ _ => .bind_same _ fun next advanced => ?_
  exact isolated.updateStatus ((Order.transitionTo_tenantId advanced).trans owned)

theorem cancelOrder_isolated {read read' : Db} {command : OrderCommand} (same : read.SameRows command.tenantId read')
    (isolated : Isolated command.tenantId base base' db db') :
    Except.Related (fun a b => a.1 = b.1 ∧ Isolated command.tenantId base base' a.2 b.2)
      (cancelOrder read command db) (cancelOrder read' command db') :=
  isolated.move same command .cancelled

theorem confirmOrder_isolated {read read' : Db} {command : OrderCommand} (same : read.SameRows command.tenantId read')
    (isolated : Isolated command.tenantId base base' db db') :
    Except.Related (fun a b => a.1 = b.1 ∧ Isolated command.tenantId base base' a.2 b.2)
      (confirmOrder read command db) (confirmOrder read' command db') :=
  isolated.move same command .confirmed

/-- The reaper recovers a candidate in the candidate's tenant. -/
theorem recoverOne_isolated {candidate : StrandedSagaCandidate} (isolated : Isolated candidate.tenantId base base' db db')
    (maxAttempts : Nat) (randomUuid : Uuid) (now : Nat) (stamp : Stamp) :
    Isolated candidate.tenantId base base'
      (recoverOne { saga := db, order := db } candidate maxAttempts randomUuid now stamp db)
      (recoverOne { saga := db', order := db' } candidate maxAttempts randomUuid now stamp db') := by
  have same := isolated.rows.own.findByOrderId candidate.orderId
  unfold recoverOne
  dsimp only
  rw [same, isolated.rows.own.findById]
  split
  · exact isolated
  · rename_i saga found'
    split
    · exact isolated
    · rename_i order _
      have stands := findByOrderId_some.mp (same.trans found')
      have stands' := findByOrderId_some.mp found'
      have atId := db.sagas.keyed _ _ stands.1
      have held : db.sagas.HeldBy OrderSaga.tenantId candidate.tenantId candidate.orderId :=
        atId ▸ Table.HeldBy.of_find stands.1 stands.2 rfl
      have held' : db'.sagas.HeldBy OrderSaga.tenantId candidate.tenantId candidate.orderId :=
        atId ▸ Table.HeldBy.of_find stands'.1 stands'.2 rfl
      unfold recoverRead
      split
      · exact isolated
      · exact isolated
      · rename_i command _
        have commits : Except.Related (Isolated candidate.tenantId base base')
            (commitRedrive candidate saga command now stamp db) (commitRedrive candidate saga command now stamp db') := by
          refine (isolated.recordReconcileAttempt saga.state now held held').bind fun _ _ recorded => ?_
          exact .ok (recorded.append command stamp)
        generalize commitRedrive candidate saga command now stamp db = committed at commits ⊢
        generalize commitRedrive candidate saga command now stamp db' = committed' at commits ⊢
        cases commits with
        | ok redriven => exact redriven
        | error _ => exact isolated

/-- The transaction of a placement writes rows of the caller's tenant only,
where nobody else has a row under the drawn order id. -/
theorem PlaceOrderCommand.claimAndInsert_isolated {command : PlaceOrderCommand} {order : Order}
    (isolated : Isolated command.tenantId base base' db db') (mine : order.tenantId = command.tenantId)
    (orderHeld : db.orders.HeldBy Order.tenantId command.tenantId order.id)
    (orderHeld' : db'.orders.HeldBy Order.tenantId command.tenantId order.id)
    (sagaHeld : db.sagas.HeldBy OrderSaga.tenantId command.tenantId order.id)
    (sagaHeld' : db'.sagas.HeldBy OrderSaga.tenantId command.tenantId order.id)
    (correlationId : Uuid) (now : Nat) (stamp : Stamp) :
    Except.Related (Isolated command.tenantId base base') (command.claimAndInsert order correlationId now stamp db)
      (command.claimAndInsert order correlationId now stamp db') := by
  have claimMine : command.claim.tenantId = command.tenantId := rfl
  refine (isolated.save claimMine order.id).bind_of_eq fun _ _ run run' saved => ?_
  obtain ⟨-, rfl⟩ := save_ok.mp run
  obtain ⟨-, rfl⟩ := save_ok.mp run'
  refine (saved.insertOrder mine orderHeld orderHeld').bind_of_eq fun _ _ run run' inserted => ?_
  obtain ⟨-, rfl⟩ := insertOrder_ok.mp run
  obtain ⟨-, rfl⟩ := insertOrder_ok.mp run'
  refine (inserted.insertSaga rfl sagaHeld sagaHeld').bind fun _ _ started => ?_
  exact .ok (started.append _ stamp)

end handlers

namespace OrderStore

/-- Two listings hold the same orders of a tenant. -/
def SameListing (tenantId : Uuid) (listing listing' : List OrderListing) : Prop :=
  listing.filter (fun row => row.tenantId = tenantId) = listing'.filter fun row => row.tenantId = tenantId

/-- The id a placement has drawn is no other tenant's. -/
structure Drawn (store : OrderStore) (placement : Placement) : Prop where
  order : store.db.orders.HeldBy Order.tenantId placement.command.tenantId placement.orderId
  saga : store.db.sagas.HeldBy OrderSaga.tenantId placement.command.tenantId placement.orderId

structure Isolated (tenantId : Uuid) (base base' store store' : OrderStore) : Prop where
  db : Db.Isolated tenantId base.db base'.db store.db store'.db
  listing : Apart SameListing tenantId base.listing base'.listing store.listing store'.listing

variable {tenantId : Uuid} {base base' store store' : OrderStore}

theorem Isolated.setDb {db db' : Db} (isolated : Isolated tenantId base base' store store')
    (moved : Db.Isolated tenantId base.db base'.db db db') :
    Isolated tenantId base base' { store with db } { store' with db := db' } :=
  ⟨moved, isolated.listing⟩

/-- A new order is listed for its tenant. -/
theorem Isolated.list (isolated : Isolated tenantId base base' store store') {row : OrderListing}
    (mine : row.tenantId = tenantId) : Isolated tenantId base base'
      { store with listing := store.listing ++ [row] } { store' with listing := store'.listing ++ [row] } := by
  have unseen {b : Uuid} (other : b ≠ tenantId) (listing : List OrderListing) :
      SameListing b listing (listing ++ [row]) := by
    rw [SameListing, List.filter_append, List.filter_cons_of_neg, List.filter_nil, List.append_nil]
    exact fun same => other ((of_decide_eq_true same).symm.trans mine)
  refine ⟨isolated.db, isolated.listing.move (fun _ _ _ _ => Eq.trans) ?_ ?_ ?_⟩
  · intro same
    rw [SameListing, List.filter_append, List.filter_append, same]
  · exact fun b other => unseen other store.listing
  · exact fun b other => unseen other store'.listing

/-- Whatever becomes of a placement, it reads and writes rows of its tenant only. -/
theorem Isolated.placeOrder {placement : Placement}
    (isolated : Isolated placement.command.tenantId base base' store store') (drawn : store.Drawn placement)
    (drawn' : store'.Drawn placement) (now : Nat) (stamp : Stamp) :
    Except.Related (fun a b => a.1 = b.1 ∧ Isolated placement.command.tenantId base base' a.2 b.2)
      (store.placeOrder placement now stamp) (store'.placeOrder placement now stamp) := by
  have same := isolated.db.rows.own
  have claimMine : placement.command.claim.tenantId = placement.command.tenantId := rfl
  refine .bind_same _ fun _ _ => ?_
  rw [same.findOrderId claimMine]
  split
  · rw [same.loadExisting rfl]
    exact .bind_same _ fun order _ => .ok ⟨rfl, isolated⟩
  · refine .bind_same _ fun order pending => ?_
    obtain ⟨atId, mine, -, -⟩ := PlaceOrderCommand.pendingOrder_ok pending
    have commits := PlaceOrderCommand.claimAndInsert_isolated isolated.db mine (atId ▸ drawn.order) (atId ▸ drawn'.order)
      (atId ▸ drawn.saga) (atId ▸ drawn'.saga) placement.correlationId now stamp
    generalize placement.command.claimAndInsert order placement.correlationId now stamp store.db = committed at commits ⊢
    generalize placement.command.claimAndInsert order placement.correlationId now stamp store'.db = committed' at commits ⊢
    cases commits with
    | ok placed => exact .ok ⟨rfl, (isolated.setDb placed).list mine⟩
    | error error =>
      by_cases refused : error = .uniqueViolation
      · subst refused
        dsimp only
        rw [same.resolveConcurrentClaim rfl]
        exact .bind_same _ fun order _ => .ok ⟨rfl, isolated⟩
      · cases error with
        | uniqueViolation => exact absurd rfl refused
        | _ => exact .error _

theorem Isolated.getOrder {query : OrderCommand} (isolated : Isolated query.tenantId base base' store store') :
    store.getOrder query = store'.getOrder query := by
  rw [OrderStore.getOrder, OrderStore.getOrder, isolated.db.rows.own.loadOrder]

theorem Isolated.findRecentByTenant (isolated : Isolated tenantId base base' store store') (userId : String)
    (limit : Nat) : store.findRecentByTenant tenantId userId limit = store'.findRecentByTenant tenantId userId limit := by
  have selects (listing : List OrderListing) : listing.filter (fun row => row.tenantId = tenantId ∧ row.userId = userId) =
      (listing.filter fun row => row.tenantId = tenantId).filter fun row => row.userId = userId := by
    rw [List.filter_filter]
    exact List.filter_congr fun row _ => by rw [Bool.decide_and, Bool.and_comm]
  have listed : store.listing.filter (fun row => row.tenantId = tenantId) =
      store'.listing.filter fun row => row.tenantId = tenantId := isolated.listing.own
  unfold OrderStore.findRecentByTenant
  simp only [selects, listed, isolated.db.rows.own.findById]

end OrderStore

end FoodDelivery.OrderService
