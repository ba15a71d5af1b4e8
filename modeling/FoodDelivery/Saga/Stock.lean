import FoodDelivery.Inventory.Redelivery
import FoodDelivery.Order.Progress

namespace FoodDelivery.StockSaga

open Messaging CommitLog InventoryService

/-- The order and the inventory service and the messages between them. What an
outbox holds for an order on a topic goes out in its order; each consumer
stands at an offset of it. A consumer of commands whose effect has committed
still owes the reply. -/
structure System where
  order : OrderService.Db
  orderLog : List (Commit OrderService.Db OrderService.Transaction)
  inventory : InventoryService.Db
  commandOffset : Uuid → Nat
  replyOffset : Uuid → Nat
  owed : Uuid → Option OutboxCommandEntry

namespace System

def commands (system : System) (orderId : Uuid) : List OutboxRow :=
  sentOn (rowsOf system.order.outbox orderId) .inventoryCommands

def replies (system : System) (orderId : Uuid) : List OutboxRow :=
  sentOn (rowsOf system.inventory.outbox orderId) .inventoryReplies

/-- No command and no reply of the order is undelivered. -/
structure Delivered (system : System) (orderId : Uuid) : Prop where
  commands : (system.commands orderId).length ≤ system.commandOffset orderId
  replies : (system.replies orderId).length ≤ system.replyOffset orderId

/-- An order whose saga is cancelled holds no stock once its messages are delivered. -/
def NoLeak (system : System) : Prop :=
  ∀ orderId, system.order.sagaState orderId = some .cancelled → system.Delivered orderId →
    ∀ tenantId, ¬ system.inventory.inventory.Holds tenantId orderId

structure Initial (system : System) : Prop where
  order : system.order = OrderService.Db.empty
  orderLog : system.orderLog = []
  inventory : system.inventory.Initial
  commandOffset : ∀ orderId, system.commandOffset orderId = 0
  owed : ∀ orderId, system.owed orderId = none

end System

/-- The transactions of the order service that no inventory reply starts, less
the cancel and confirm calls. The payment service may reply anything. -/
def FromOutside : OrderService.Transaction → Prop
  | .placeOrder .. => True
  | .reply .payment .. => True
  | .recoverOne .. => True
  | .resetReconcileAttempts .. => True
  | _ => False

inductive Event
  | order (act : OrderService.Transaction)
  | effect (orderId : Uuid)
  | reply (orderId : Uuid)
  | deliver (orderId : Uuid)
  | rewindCommands (orderId : Uuid)
  | rewindReplies (orderId : Uuid)
  | replenish (key : StockKey) (qty : Int)

/-- The steps of the two services. A command is handled in two steps, for its
effect and its reply commit separately; a reply in one. A consumer that fails
or restarts goes on from any earlier offset. -/
inductive Step : Event → System → System → Prop
  | order {system db} (act : OrderService.Transaction) : FromOutside act →
      OrderService.commits (Seen system.orderLog system.order) act system.order db →
      Step (.order act) system { system with order := db, orderLog := ⟨system.order, act, db⟩ :: system.orderLog }
  | effect {system row entry inventory} (orderId : Uuid) (ids : Nat → Uuid) :
      (system.commands orderId)[system.commandOffset orderId]? = some row → Drawn system.inventory.inventory ids →
      runEffect row.envelope row.payload ids system.inventory.inventory = .ok (entry, inventory) →
      Step (.effect orderId) system { system with
        inventory := { system.inventory with inventory }
        owed := Function.update system.owed orderId (some entry) }
  | reply {system row entry} (orderId : Uuid) (stamp : Stamp) :
      (system.commands orderId)[system.commandOffset orderId]? = some row → system.owed orderId = some entry →
      Step (.reply orderId) system { system with
        inventory := system.inventory.appendOnce row.envelope entry stamp
        commandOffset := Function.update system.commandOffset orderId (system.commandOffset orderId + 1)
        owed := Function.update system.owed orderId none }
  | deliver {system row db} (orderId : Uuid) (now : Nat) (stamp : Stamp) :
      (system.replies orderId)[system.replyOffset orderId]? = some row →
      OrderService.commits (Seen system.orderLog system.order)
        (.reply .inventory row.envelope row.payload.orderId now stamp) system.order db →
      Step (.deliver orderId) system { system with
        order := db
        orderLog := ⟨system.order, .reply .inventory row.envelope row.payload.orderId now stamp, db⟩ :: system.orderLog
        replyOffset := Function.update system.replyOffset orderId (system.replyOffset orderId + 1) }
  | rewindCommands {system} (orderId : Uuid) (offset : Nat) : offset ≤ system.commandOffset orderId →
      Step (.rewindCommands orderId) system { system with
        commandOffset := Function.update system.commandOffset orderId offset
        owed := Function.update system.owed orderId none }
  | rewindReplies {system} (orderId : Uuid) (offset : Nat) : offset ≤ system.replyOffset orderId →
      Step (.rewindReplies orderId) system
        { system with replyOffset := Function.update system.replyOffset orderId offset }
  | replenish {system row} (key : StockKey) (qty : Int) : system.inventory.inventory.stock.find key = some row → 0 < qty →
      Step (.replenish key qty) system { system with inventory := { system.inventory with
        inventory := { system.inventory.inventory with
          stock := system.inventory.inventory.stock.put { row with available := row.available + qty } } } }

abbrev Run : List (Commit System Event) → System → Prop := History System.Initial fun _ => Step

/-- The order has been told that its stock cannot be reserved. -/
def System.Refused (system : System) (orderId : Uuid) : Prop :=
  ∃ row ∈ system.replies orderId, row.eventType = .stockReservationFailed

/-- A ReserveStock is about to take stock for an order that has been refused it. -/
def Event.TakesRefused (system : System) : Event → Prop
  | .effect orderId => system.Refused orderId ∧ ∃ row items normal,
      (system.commands orderId)[system.commandOffset orderId]? = some row ∧ row.payload = .items orderId items ∧
      normalizeItems items = .ok normal ∧ ¬ system.inventory.inventory.Holds row.tenantId orderId ∧
      system.inventory.inventory.coversAll row.tenantId normal
  | _ => False

end FoodDelivery.StockSaga
