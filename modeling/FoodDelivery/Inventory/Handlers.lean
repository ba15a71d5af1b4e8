import FoodDelivery.Inventory.Store

namespace FoodDelivery.InventoryService

open Messaging

structure ReserveStockCommand where
  tenantId : Uuid
  orderId : Uuid
  items : List ItemQty

structure ReserveStockResult where
  ok : Bool
  reservationIds : List Uuid
  deriving DecidableEq, Repr

structure ReleaseStockCommand where
  tenantId : Uuid
  orderId : Uuid

/-- A handler's conversation with its database. The Redis locks around it are
left out: they may expire, and a call that is refused one throws before its
transaction starts. -/
abbrev Transact := Program Statement Statement.Result InventoryError

abbrev findActiveByOrder (tenantId orderId : Uuid) : Transact (List Reservation) :=
  Program.send (Statement.findActiveByOrder tenantId orderId)

abbrev findByItemIds (tenantId : Uuid) (itemIds : List Uuid) : Transact (List Stock) :=
  Program.send (Statement.findByItemIds tenantId itemIds)

abbrev decrementIfAvailable (tenantId itemId : Uuid) (qty : Int) : Transact Bool :=
  Program.send (Statement.decrementIfAvailable tenantId itemId qty)

abbrev save (reservation : Reservation) : Transact (Option Reservation) := Program.send (Statement.save reservation)

abbrev releaseIfActive (reservation : Reservation) : Transact Bool :=
  Program.send (Statement.releaseIfActive reservation)

abbrev increaseAvailable (tenantId : Uuid) (reservation : Reservation) : Transact Unit :=
  Program.send (Statement.increaseAvailable tenantId reservation)

/-- The loop over the items, with the ids that `randomUUID` returns. -/
def reserveEach (tenantId orderId : Uuid) (stocks : List Stock) : (ids : Nat → Uuid) → List ItemQty → Transact (List Uuid)
  | _, [] => pure []
  | ids, item :: rest =>
    match stocks.find? fun stock => stock.key.itemId = item.itemId with
    | none => .fail (.stockNotFound item.itemId)
    | some stock => do
      let reserved ← decrementIfAvailable tenantId item.itemId item.qty
      if reserved then
        let reservation ← Program.check (Reservation.create (ids 0) tenantId orderId item)
        match ← save reservation with
        | none => .fail .uniqueViolation
        | some saved =>
          let reservationIds ← reserveEach tenantId orderId stocks (fun n => ids (n + 1)) rest
          return saved.id :: reservationIds
      else .fail (.insufficientStock item.itemId item.qty stock.available)

def reserveWithinTransaction (tenantId orderId : Uuid) (items : List ItemQty) (ids : Nat → Uuid) :
    Transact (List Uuid) := do
  let existing ← findActiveByOrder tenantId orderId
  if existing.length > 0 then
    Program.check (assertReplayMatches existing items orderId)
    return existing.map (·.id)
  else
    let stocks ← findByItemIds tenantId (items.map (·.itemId))
    reserveEach tenantId orderId stocks ids items

/-- The transaction of `ReserveStockHandler.execute`. -/
def ReserveStockCommand.transaction (command : ReserveStockCommand) (ids : Nat → Uuid) : Transact (List Uuid) := do
  let items ← Program.check (normalizeItems command.items)
  reserveWithinTransaction command.tenantId command.orderId items ids

/-- What `execute` makes of the transaction's end: a shortage is a result. -/
def ReserveStockCommand.settle (command : ReserveStockCommand) (inventory : Inventory) :
    Except InventoryError (List Uuid × Inventory) → Except InventoryError (ReserveStockResult × Inventory)
  | .ok (reservationIds, reserved) => .ok ({ ok := true, reservationIds }, reserved)
  | .error (.insufficientStock ..) => .ok ({ ok := false, reservationIds := [] }, inventory)
  | .error (.stockNotFound ..) => .ok ({ ok := false, reservationIds := [] }, inventory)
  | .error .uniqueViolation => .error (.idempotencyConflict command.orderId)
  | .error error => .error error

/-- `ReserveStockHandler.execute`, running alone. -/
def ReserveStockCommand.execute (command : ReserveStockCommand) (ids : Nat → Uuid) (inventory : Inventory) :
    Except InventoryError (ReserveStockResult × Inventory) :=
  command.settle inventory ((command.transaction ids).run Statement.run inventory)

def releaseEach (tenantId : Uuid) : List Reservation → Transact Unit
  | [] => pure ()
  | reservation :: rest => do
    let released ← releaseIfActive reservation
    if released then
      increaseAvailable tenantId reservation
      releaseEach tenantId rest
    else releaseEach tenantId rest

def releaseWithinTransaction (tenantId orderId : Uuid) : Transact Unit := do
  let current ← findActiveByOrder tenantId orderId
  if current.length = 0 then return ()
  else releaseEach tenantId current

/-- The lookup of `ReleaseStockHandler.execute` and, where it finds rows, the
transaction. -/
def ReleaseStockCommand.transaction (command : ReleaseStockCommand) : Transact Unit := do
  let active ← findActiveByOrder command.tenantId command.orderId
  if active.length = 0 then return ()
  else releaseWithinTransaction command.tenantId command.orderId

/-- `ReleaseStockHandler.execute`, running alone. -/
def ReleaseStockCommand.execute (command : ReleaseStockCommand) (inventory : Inventory) :
    Except InventoryError (Unit × Inventory) :=
  command.transaction.run Statement.run inventory

def reply (orderId : Uuid) (eventType : EventType) (correlationId : Uuid) (payload : Payload) : OutboxCommandEntry where
  aggregateId := orderId
  topic := .inventoryReplies
  eventType := eventType
  payload := payload
  correlationId := some correlationId

def stockReservedReply (orderId correlationId : Uuid) : OutboxCommandEntry :=
  reply orderId .stockReserved correlationId (.order orderId)

def stockReservationFailedReply (orderId : Uuid) (reason : String) (correlationId : Uuid) : OutboxCommandEntry :=
  reply orderId .stockReservationFailed correlationId (.reason orderId reason)

def stockReleasedReply (orderId correlationId : Uuid) : OutboxCommandEntry :=
  reply orderId .stockReleased correlationId (.order orderId)

/-- `runEffect`: the reply, and the tables after the handler's own transaction. -/
def runEffect (envelope : EventEnvelopeHeaders) (payload : Payload) (ids : Nat → Uuid) (inventory : Inventory) :
    Except InventoryError (OutboxCommandEntry × Inventory) :=
  match envelope.eventType, payload with
  | .reserveStock, .items orderId items => do
    let (result, reserved) ← ReserveStockCommand.execute { tenantId := envelope.tenantId, orderId, items } ids inventory
    let answer := if result.ok then stockReservedReply orderId envelope.correlationId
      else stockReservationFailedReply orderId "insufficient stock" envelope.correlationId
    return (answer, reserved)
  | .releaseStock, payload => do
    let (_, released) ← ReleaseStockCommand.execute { tenantId := envelope.tenantId, orderId := payload.orderId } inventory
    return (stockReleasedReply payload.orderId envelope.correlationId, released)
  | .reserveStock, _ => throw .malformedPayload
  | other, _ => throw (.unknownCommand other.name)

/-- `IdempotentConsumer.runOnce` around the append of the reply: an event id
recorded before ends this transaction, and only this one, without the append. -/
def Db.appendOnce (db : Db) (envelope : EventEnvelopeHeaders) (entry : OutboxCommandEntry) (stamp : Stamp) : Db :=
  if envelope.eventId ∈ db.processedEvents then db
  else { db with
    outbox := db.outbox ++ [entry.toRow envelope.tenantId stamp]
    processedEvents := envelope.eventId :: db.processedEvents }

/-- `InventoryCommandConsumer.handleCommand`: the effect commits first, the
reply in a transaction of its own. -/
def Db.handleCommand (db : Db) (envelope : EventEnvelopeHeaders) (payload : Payload) (ids : Nat → Uuid) (stamp : Stamp) :
    Except InventoryError Db := do
  let (entry, inventory) ← runEffect envelope payload ids db.inventory
  return Db.appendOnce { db with inventory } envelope entry stamp

end FoodDelivery.InventoryService
