import Mathlib.Logic.Function.Basic
import FoodDelivery.Messaging.Envelope

namespace FoodDelivery.PaymentService

open Messaging

structure ChargeDecision where
  ok : Bool
  reason : Option String
  deriving DecidableEq, Repr

def decideCharge (totalCents failAtCents : Int) : ChargeDecision :=
  if totalCents = failAtCents then
    { ok := false, reason := some ("payment declined for amount " ++ toString totalCents) }
  else { ok := true, reason := none }

/-- What a charge came to. A result marked `pending` only makes the workflow
wait longer for a signal, so the mark is left out. -/
structure ProviderResult where
  ok : Bool
  reason : Option String
  deriving DecidableEq, Repr

structure ChargeWorkflowInput where
  orderId : Uuid
  totalCents : Int
  correlationId : Uuid
  tenantId : Uuid
  deriving DecidableEq, Repr

/-- The `charge` activity. -/
def charge (failAtCents totalCents : Int) : ProviderResult :=
  let decision := decideCharge totalCents failAtCents
  { ok := decision.ok, reason := decision.reason }

/-- The retry policy of both activities. -/
def maximumAttempts : Nat := 5

/-- A run of `chargeWorkflow`: in its first activity, with what a signal has
set `reconciled` to; in its second, with the outcome; or closed, `failed` in any
way that leaves no result. -/
inductive Workflow
  | charging (input : ChargeWorkflowInput) (reconciled : Option ProviderResult) (attempts : Nat)
  | emitting (input : ChargeWorkflowInput) (outcome : ProviderResult) (attempts : Nat)
  | completed (outcome : ProviderResult)
  | failed
  deriving DecidableEq, Repr

def Workflow.running : Workflow → Bool
  | .charging .. => true
  | .emitting .. => true
  | _ => false

/-- How the charge has been decided; a workflow that failed charges nothing. -/
def Workflow.verdict : Workflow → Option Bool
  | .charging .. => none
  | .emitting _ outcome _ => some outcome.ok
  | .completed outcome => some outcome.ok
  | .failed => some false

/-- The payment service's database, and the workflows that Temporal runs for
it under the ids `charge-` with an order id. -/
structure Db where
  outbox : List OutboxRow
  processedEvents : List Uuid
  workflows : Uuid → Option Workflow

def paymentSucceededReply (orderId correlationId : Uuid) : OutboxCommandEntry where
  aggregateId := orderId
  topic := .paymentReplies
  eventType := .paymentSucceeded
  payload := .order orderId
  correlationId := some correlationId

def paymentFailedReply (orderId : Uuid) (reason : String) (correlationId : Uuid) : OutboxCommandEntry where
  aggregateId := orderId
  topic := .paymentReplies
  eventType := .paymentFailed
  payload := .reason orderId reason
  correlationId := some correlationId

def ProviderResult.reply (result : ProviderResult) (orderId correlationId : Uuid) : OutboxCommandEntry :=
  if result.ok then paymentSucceededReply orderId correlationId
  else paymentFailedReply orderId (result.reason.getD "payment declined") correlationId

theorem ProviderResult.reply_aggregateId (result : ProviderResult) (orderId correlationId : Uuid) :
    (result.reply orderId correlationId).aggregateId = orderId := by
  unfold ProviderResult.reply
  split <;> rfl

namespace Db

def empty : Db where
  outbox := []
  processedEvents := []
  workflows _ := none

def append (db : Db) (entry : OutboxCommandEntry) (tenantId : Uuid) (stamp : Stamp) : Db :=
  { db with outbox := db.outbox ++ [entry.toRow tenantId stamp] }

def setWorkflow (db : Db) (orderId : Uuid) (workflow : Workflow) : Db :=
  { db with workflows := Function.update db.workflows orderId (some workflow) }

/-- `startCharge`, with the duplicate start that `REJECT_DUPLICATE` refuses
whether the workflow runs or is closed. `recovers` says whether describing the
workflow, reading its result and appending the reply all succeed: a failure of
any of them is only logged. -/
def startCharge (db : Db) (input : ChargeWorkflowInput) (recovers : Bool) (stamp : Stamp) : Db :=
  match db.workflows input.orderId with
  | none => db.setWorkflow input.orderId (.charging input none 0)
  | some (.completed result) =>
    if recovers then db.append (result.reply input.orderId input.correlationId) input.tenantId stamp else db
  | some _ => db

/-- `PaymentCommandConsumer.handleCommand`; nothing where it throws. -/
def handleCommand (db : Db) (envelope : EventEnvelopeHeaders) (payload : Payload) (recovers : Bool) (stamp : Stamp) :
    Option Db :=
  match envelope.eventType, payload with
  | .chargePayment, .total orderId totalCents => some (db.startCharge
      { orderId, totalCents, correlationId := envelope.correlationId, tenantId := envelope.tenantId } recovers stamp)
  | .chargePayment, _ => none
  | _, _ => some db

/-- A webhook's signal; a workflow that has taken its outcome ignores it. -/
def signalProviderResult (db : Db) (orderId : Uuid) (result : ProviderResult) : Db :=
  match db.workflows orderId with
  | some (.charging input _ attempts) => db.setWorkflow orderId (.charging input (some result) attempts)
  | _ => db

/-- The `charge` activity returns, and the workflow takes its outcome:
`reconciled ?? decided`. -/
def charged (db : Db) (orderId : Uuid) (failAtCents : Int) : Db :=
  match db.workflows orderId with
  | some (.charging input reconciled _) =>
    db.setWorkflow orderId (.emitting input (reconciled.getD (charge failAtCents input.totalCents)) 0)
  | _ => db

/-- The execution of `emitReply` that the workflow then asks for. -/
def asked (db : Db) (orderId : Uuid) (failAtCents : Int) : List (ChargeWorkflowInput × ProviderResult) :=
  match db.workflows orderId with
  | some (.charging input reconciled _) => [(input, reconciled.getD (charge failAtCents input.totalCents))]
  | _ => []

/-- Temporal closes a workflow that runs. -/
def close (db : Db) (orderId : Uuid) : Db :=
  match db.workflows orderId with
  | some workflow => if workflow.running then db.setWorkflow orderId .failed else db
  | none => db

/-- An attempt of the `charge` activity fails. -/
def chargeThrows (db : Db) (orderId : Uuid) : Db :=
  match db.workflows orderId with
  | some (.charging input reconciled attempts) =>
    db.setWorkflow orderId (if attempts + 1 < maximumAttempts then .charging input reconciled (attempts + 1) else .failed)
  | _ => db

/-- The transaction of the `emitReply` activity, which runs once an order. -/
def emitReply (db : Db) (input : ChargeWorkflowInput) (outcome : ProviderResult) (stamp : Stamp) : Db :=
  if input.orderId ∈ db.processedEvents then db
  else { db.append (outcome.reply input.orderId input.correlationId) input.tenantId stamp with
    processedEvents := input.orderId :: db.processedEvents }

theorem emitReply_workflows (db : Db) (input : ChargeWorkflowInput) (outcome : ProviderResult) (stamp : Stamp) :
    (db.emitReply input outcome stamp).workflows = db.workflows := by
  unfold emitReply
  split <;> rfl

/-- An attempt of the `emitReply` activity. -/
def emit (db : Db) (orderId : Uuid) (result : RequestResult) (stamp : Stamp) : Db :=
  match db.workflows orderId with
  | some (.emitting input outcome attempts) =>
    let retry := if attempts + 1 < maximumAttempts then .emitting input outcome (attempts + 1) else .failed
    match result with
    | .done => (db.emitReply input outcome stamp).setWorkflow orderId (.completed outcome)
    | .lostAnswer => (db.emitReply input outcome stamp).setWorkflow orderId retry
    | .failed => db.setWorkflow orderId retry
  | _ => db

end Db

end FoodDelivery.PaymentService
