import FoodDelivery.Lib.Program
import FoodDelivery.Lib.Table
import FoodDelivery.Inventory.Domain

namespace FoodDelivery.InventoryService

open Messaging

/-- The two tables the handlers work on. -/
structure Inventory where
  stock : Table Stock.key
  reservations : List Reservation

/-- The inventory service's database. -/
structure Db where
  inventory : Inventory
  outbox : List OutboxRow
  processedEvents : List Uuid

/-- What a transaction writes to the two tables. An increase carries the
reservation whose quantity it returns. -/
inductive Write
  | decrement (key : StockKey) (qty : Int)
  | insert (reservation : Reservation)
  | release (reservation : Reservation)
  | increase (key : StockKey) (reservation : Reservation)
  deriving DecidableEq, Repr

def Reservation.released (reservation : Reservation) : Reservation := { reservation with status := .released }

def Reservation.isActiveOf (reservation : Reservation) (tenantId orderId : Uuid) : Bool :=
  reservation.tenantId = tenantId && reservation.orderId = orderId && reservation.status = .active

theorem Reservation.isActiveOf_iff {row : Reservation} {tenantId orderId : Uuid} :
    row.isActiveOf tenantId orderId = true ↔ row.tenantId = tenantId ∧ row.orderId = orderId ∧ row.status = .active := by
  simp only [isActiveOf, Bool.and_eq_true, decide_eq_true_eq, and_assoc]

/-- The columns of the partial unique index on ACTIVE rows. -/
structure ActiveKey where
  tenantId : Uuid
  orderId : Uuid
  itemId : Uuid
  deriving DecidableEq, Repr

def Reservation.activeKey (reservation : Reservation) : ActiveKey where
  tenantId := reservation.tenantId
  orderId := reservation.orderId
  itemId := reservation.itemId

namespace Inventory

def findActiveByOrder (inventory : Inventory) (tenantId orderId : Uuid) : List Reservation :=
  inventory.reservations.filter fun row => row.isActiveOf tenantId orderId

def findByItemIds (inventory : Inventory) (tenantId : Uuid) (itemIds : List Uuid) : List Stock :=
  itemIds.filterMap fun itemId => inventory.stock.find { tenantId, itemId }

def findReservation (inventory : Inventory) (id : Uuid) : Option Reservation :=
  inventory.reservations.find? fun row => row.id = id

/-- The ACTIVE rows under one key of the index. -/
def activeRows (inventory : Inventory) (key : ActiveKey) : List Reservation :=
  inventory.reservations.filter fun row => row.status = .active ∧ row.activeKey = key

/-- The guarded update matches the stock row. -/
def covers (inventory : Inventory) (key : StockKey) (qty : Int) : Bool :=
  (inventory.stock.find key).any fun row => qty ≤ row.available

def apply (write : Write) (inventory : Inventory) : Inventory :=
  match write with
  | .decrement key qty =>
    match inventory.stock.find key with
    | some row => { inventory with stock := inventory.stock.put { row with available := row.available - qty } }
    | none => inventory
  | .insert reservation => { inventory with reservations := inventory.reservations ++ [reservation] }
  | .release reservation =>
    { inventory with reservations := inventory.reservations.map fun row =>
        if row = reservation then row.released else row }
  | .increase key reservation =>
    match inventory.stock.find key with
    | some row =>
      { inventory with stock := inventory.stock.put { row with available := row.available + reservation.qty } }
    | none => inventory

/-- A released row keeps its id. -/
theorem release_id (reservation row : Reservation) : (if row = reservation then row.released else row).id = row.id := by
  split <;> rfl

theorem release_ids (inventory : Inventory) (reservation : Reservation) :
    (inventory.apply (.release reservation)).reservations.map (·.id) = inventory.reservations.map (·.id) := by
  rw [apply, List.map_map]
  exact List.map_congr_left fun row _ => release_id reservation row

theorem mem_findActiveByOrder {inventory : Inventory} {tenantId orderId : Uuid} {row : Reservation} :
    row ∈ inventory.findActiveByOrder tenantId orderId ↔
      row ∈ inventory.reservations ∧ row.tenantId = tenantId ∧ row.orderId = orderId ∧ row.status = .active := by
  rw [findActiveByOrder, List.mem_filter, Reservation.isActiveOf_iff]

end Inventory

/-- The statements of the stock and reservation repositories. -/
inductive Statement
  | findActiveByOrder (tenantId orderId : Uuid)
  | findByItemIds (tenantId : Uuid) (itemIds : List Uuid)
  | decrementIfAvailable (tenantId itemId : Uuid) (qty : Int)
  | save (reservation : Reservation)
  | releaseIfActive (reservation : Reservation)
  | increaseAvailable (tenantId : Uuid) (reservation : Reservation)

/-- What each returns; `save` returns nothing when the index refuses the row. -/
abbrev Statement.Result : Statement → Type
  | .findActiveByOrder _ _ => List Reservation
  | .findByItemIds _ _ => List Stock
  | .decrementIfAvailable _ _ _ => Bool
  | .save _ => Option Reservation
  | .releaseIfActive _ => Bool
  | .increaseAvailable _ _ => Unit

def Statement.writes (statement : Statement) (inventory : Inventory) : List Write :=
  match statement with
  | .findActiveByOrder _ _ => []
  | .findByItemIds _ _ => []
  | .decrementIfAvailable tenantId itemId qty =>
    if inventory.covers { tenantId, itemId } qty then [.decrement { tenantId, itemId } qty] else []
  | .save reservation => if inventory.activeRows reservation.activeKey = [] then [.insert reservation] else []
  | .releaseIfActive reservation =>
    match inventory.findReservation reservation.id with
    | some row => if row.status = .active then [.release row] else []
    | none => []
  | .increaseAvailable tenantId reservation =>
    if (inventory.stock.find { tenantId, itemId := reservation.itemId }).isSome then
      [.increase { tenantId, itemId := reservation.itemId } reservation]
    else []

def Statement.answer : (statement : Statement) → Inventory → statement.Result
  | .findActiveByOrder tenantId orderId, inventory => inventory.findActiveByOrder tenantId orderId
  | .findByItemIds tenantId itemIds, inventory => inventory.findByItemIds tenantId itemIds
  | .decrementIfAvailable tenantId itemId qty, inventory => inventory.covers { tenantId, itemId } qty
  | .save reservation, inventory =>
    if inventory.activeRows reservation.activeKey = [] then some reservation else none
  | .releaseIfActive reservation, inventory =>
    (inventory.findReservation reservation.id).any fun row => row.status = .active
  | .increaseAvailable _ _, _ => ()

/-- A statement alone on the tables. -/
def Statement.run (statement : Statement) (inventory : Inventory) : statement.Result × Inventory :=
  (statement.answer inventory, (statement.writes inventory).foldl (fun i write => i.apply write) inventory)

end FoodDelivery.InventoryService
