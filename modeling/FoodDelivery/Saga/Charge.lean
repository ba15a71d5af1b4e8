import FoodDelivery.Order.Progress
import FoodDelivery.Payment.Workflow

namespace FoodDelivery.ChargeSaga

open Messaging CommitLog PaymentService

/-- The order and the payment service, with what the inventory service has
replied. The messages between them are the rows of their outboxes, each of which
may be delivered at any time and any number of times; `settled` are those
delivered or dead-lettered. `emitReplies` are the executions of that activity
which workflows have asked for. -/
structure System where
  order : OrderService.Db
  payment : PaymentService.Db
  stock : List OutboxRow
  emitReplies : List (ChargeWorkflowInput × ProviderResult)
  settled : List OutboxRow

namespace System

def status (system : System) (orderId : Uuid) : Option OrderService.OrderStatus := system.order.status orderId

def workflow (system : System) (orderId : Uuid) : Option Workflow := system.payment.workflows orderId

/-- How the charge of the order stands: not started, undecided or decided. -/
def charge (system : System) (orderId : Uuid) : Option (Option Bool) := (system.workflow orderId).map Workflow.verdict

/-- The commands of the order to the payment service. -/
def commands (system : System) (orderId : Uuid) : List OutboxRow :=
  sentOn (rowsOf system.order.outbox orderId) .paymentCommands

def replies (system : System) (orderId : Uuid) : List OutboxRow := rowsOf system.payment.outbox orderId

/-- What the services that reply to the order service have sent. -/
def sent (system : System) : OrderService.ReplySource → List OutboxRow
  | .inventory => system.stock
  | .payment => system.payment.outbox

/-- No command or reply of the order is under way, and no charge. -/
structure Quiet (system : System) (orderId : Uuid) : Prop where
  commands : ∀ row ∈ rowsOf system.order.outbox orderId, row.topic = .inventoryCommands ∨ row.topic = .paymentCommands →
    row ∈ system.settled
  replies : ∀ source, ∀ row ∈ rowsOf (system.sent source) orderId, row ∈ system.settled
  workflow : ∀ workflow, system.workflow orderId = some workflow → workflow.running = false

/-- The charge of the order has completed with `ok = true`. -/
def Paid (system : System) (orderId : Uuid) : Prop :=
  ∃ outcome, system.workflow orderId = some (.completed outcome) ∧ outcome.ok = true

/-- An order that is quiet is confirmed exactly when it was paid for. -/
def Consistent (system : System) : Prop :=
  ∀ orderId, system.Quiet orderId → (system.status orderId = some .confirmed ↔ system.Paid orderId)

structure Initial (system : System) : Prop where
  order : system.order = OrderService.Db.empty
  payment : system.payment = PaymentService.Db.empty
  stock : system.stock = []
  emitReplies : system.emitReplies = []
  settled : system.settled = []

/-- The reply to be appended gets an id of its own. -/
structure Fresh (system : System) (stamp : Stamp) : Prop where
  sent : ∀ source, ∀ row ∈ system.sent source, row.id ≠ stamp.id
  processed : stamp.id ∉ system.order.processedEvents

end System

/-- The transactions of the order service that no reply starts. -/
def FromOutside : OrderService.Transaction → Prop
  | .reply .. => False
  | _ => True

/-- What a transaction of the order service may have read, given the states it
may have read in. -/
def orderSeen (seen : System → Prop) (db : OrderService.Db) : Prop := ∃ system, seen system ∧ system.order = db

inductive Event
  | order (act : OrderService.Transaction)
  | takeStock (row : OutboxRow)
  | stockReply (entry : OutboxCommandEntry)
  | command (row : OutboxRow)
  | signal (orderId : Uuid) (result : ProviderResult)
  | charged (orderId : Uuid) (failAtCents : Int)
  | chargeThrows (orderId : Uuid)
  | emit (orderId : Uuid) (result : RequestResult)
  | emitLate (input : ChargeWorkflowInput) (outcome : ProviderResult)
  | close (orderId : Uuid)
  | reply (source : OrderService.ReplySource) (row : OutboxRow)
  | deadLetter (row : OutboxRow)

/-- The steps of the services. A transaction of the order service reads at any
earlier moment, one for a reply after the reply was sent. The inventory service
may reply anything at any time. An execution of `emitReply` may still commit when
its workflow no longer waits for it. Any message may end up dead-lettered, for
any handler may keep throwing. -/
inductive Step (seen : System → Prop) : Event → System → System → Prop
  | order {system db} (act : OrderService.Transaction) : FromOutside act →
      OrderService.commits (orderSeen seen) act system.order db →
      Step seen (.order act) system { system with order := db }
  | takeStock {system} (row : OutboxRow) : row ∈ system.order.outbox → row.topic = .inventoryCommands →
      Step seen (.takeStock row) system { system with settled := row :: system.settled }
  | stockReply {system} (entry : OutboxCommandEntry) (tenantId : Uuid) (stamp : Stamp) : entry.topic = .inventoryReplies →
      system.Fresh stamp →
      Step seen (.stockReply entry) system { system with stock := system.stock ++ [entry.toRow tenantId stamp] }
  | command {system payment} (row : OutboxRow) (recovers : Bool) (stamp : Stamp) : row ∈ system.order.outbox →
      row.topic = .paymentCommands → system.Fresh stamp →
      system.payment.handleCommand row.envelope row.payload recovers stamp = some payment →
      Step seen (.command row) system { system with payment, settled := row :: system.settled }
  | signal {system} (orderId : Uuid) (result : ProviderResult) :
      Step seen (.signal orderId result) system { system with payment := system.payment.signalProviderResult orderId result }
  | charged {system} (orderId : Uuid) (failAtCents : Int) :
      Step seen (.charged orderId failAtCents) system { system with
        payment := system.payment.charged orderId failAtCents
        emitReplies := system.payment.asked orderId failAtCents ++ system.emitReplies }
  | chargeThrows {system} (orderId : Uuid) :
      Step seen (.chargeThrows orderId) system { system with payment := system.payment.chargeThrows orderId }
  | emit {system} (orderId : Uuid) (result : RequestResult) (stamp : Stamp) : system.Fresh stamp →
      Step seen (.emit orderId result) system { system with payment := system.payment.emit orderId result stamp }
  | emitLate {system} (input : ChargeWorkflowInput) (outcome : ProviderResult) (stamp : Stamp) :
      (input, outcome) ∈ system.emitReplies → system.Fresh stamp →
      Step seen (.emitLate input outcome) system { system with payment := system.payment.emitReply input outcome stamp }
  | close {system} (orderId : Uuid) :
      Step seen (.close orderId) system { system with payment := system.payment.close orderId }
  | reply {system db} (source : OrderService.ReplySource) (row : OutboxRow) (now : Nat) (stamp : Stamp) :
      row ∈ system.sent source →
      OrderService.commits (orderSeen fun before => seen before ∧ row ∈ before.sent source)
        (.reply source row.envelope row.payload.orderId now stamp) system.order db →
      Step seen (.reply source row) system { system with order := db, settled := row :: system.settled }
  | deadLetter {system} (row : OutboxRow) :
      row ∈ system.order.outbox ∧ (row.topic = .inventoryCommands ∨ row.topic = .paymentCommands) ∨
        (∃ source, row ∈ system.sent source) →
      Step seen (.deadLetter row) system { system with settled := row :: system.settled }

abbrev Run : List (Commit System Event) → System → Prop := History System.Initial Step

/-- PaymentSucceeded has been sent for the order. -/
def System.Announced (system : System) (orderId : Uuid) : Prop :=
  ∃ row ∈ system.replies orderId, row.eventType = .paymentSucceeded

/-- A step that sets an order and its charge against each other: a confirm
call against the charge, or where none is coming; a cancel call against it; a
charge decided against the order; a workflow that fails after it was relied
upon; a reply sent for an order that waits after its workflow has failed; and a
message given up that is the last the order waits for. -/
def Event.Conflicts (system : System) : Event → Prop
  | .order (.confirmOrder call) => system.status call.orderId = some .reserved ∧
      (system.charge call.orderId = some (some false) ∨
        system.charge call.orderId = none ∧ ∀ row ∈ system.commands call.orderId, row ∈ system.settled)
  | .order (.cancelOrder call) => system.status call.orderId = some .reserved ∧
      system.charge call.orderId = some (some true)
  | .charged orderId failAtCents => ∃ input reconciled attempts,
      system.workflow orderId = some (.charging input reconciled attempts) ∧
      ((reconciled.getD (PaymentService.charge failAtCents input.totalCents)).ok = true ∧
          system.status orderId = some .cancelled ∨
        (reconciled.getD (PaymentService.charge failAtCents input.totalCents)).ok = false ∧
          system.status orderId = some .confirmed)
  | .chargeThrows orderId => ∃ input reconciled attempts,
      system.workflow orderId = some (.charging input reconciled attempts) ∧ maximumAttempts ≤ attempts + 1 ∧
      system.status orderId = some .confirmed
  | .emit orderId result => ∃ input outcome attempts,
      system.workflow orderId = some (.emitting input outcome attempts) ∧ maximumAttempts ≤ attempts + 1 ∧
      outcome.ok = true ∧ (result = .lostAnswer ∨
        result = .failed ∧ (system.status orderId = some .confirmed ∨ system.Announced orderId))
  | .emitLate input outcome => system.workflow input.orderId = some .failed ∧ outcome.ok = true ∧
      input.orderId ∉ system.payment.processedEvents ∧ system.status input.orderId = some .reserved
  | .close orderId => ∃ workflow, system.workflow orderId = some workflow ∧ workflow.running = true ∧
      workflow.verdict ≠ some false ∧ (system.status orderId = some .confirmed ∨ system.Announced orderId)
  | .deadLetter row =>
      (system.status row.aggregateId = some .reserved ∧ system.charge row.aggregateId = some (some true) ∧
        row ∈ system.replies row.aggregateId ∧
        ∀ other ∈ system.replies row.aggregateId, other ∉ system.settled → other = row) ∨
      (system.status row.aggregateId = some .confirmed ∧ system.charge row.aggregateId = none ∧
        row ∈ system.commands row.aggregateId ∧
        ∀ other ∈ system.commands row.aggregateId, other ∉ system.settled → other = row)
  | _ => False

end FoodDelivery.ChargeSaga
