import FoodDelivery.Order.Confirmed
import FoodDelivery.Saga.ChargeOrder
import FoodDelivery.Saga.StockKept

namespace FoodDelivery.Settlement

open Messaging CommitLog PaymentService
open OrderService (View Progress SagaState)
open ChargeSaga (Charged Charging)

/-- What a workflow took as the outcome of charging an order. -/
structure Decision where
  orderId : Uuid
  totalCents : Int
  ok : Bool
  deriving DecidableEq, Repr

/-- The order, the inventory and the payment service together, with the
outcomes that the workflows have taken so far. -/
structure System where
  stock : StockSaga.System
  payment : PaymentService.Db
  decisions : List Decision

namespace System

/-- The orders of the order service. -/
def find (system : System) (orderId : Uuid) : Option OrderService.Order := system.stock.order.orders.find orderId

def decisionsOf (system : System) (orderId : Uuid) : List Decision :=
  system.decisions.filter fun decision => decision.orderId = orderId

/-- The outcome that is taken where the charge of an order returns. -/
def decision (system : System) (orderId : Uuid) (failAtCents : Int) : Option Decision :=
  match system.payment.workflows orderId with
  | some (.charging input reconciled _) => some {
      orderId := input.orderId
      totalCents := input.totalCents
      ok := (reconciled.getD (PaymentService.charge failAtCents input.totalCents)).ok }
  | _ => none

structure Initial (system : System) : Prop where
  stock : system.stock.Initial
  payment : system.payment = PaymentService.Db.empty
  decisions : system.decisions = []

end System

inductive Event
  | stock (event : StockSaga.Event)
  | call (act : OrderService.Transaction)
  | command (row : OutboxRow)
  | signal (orderId : Uuid) (result : ProviderResult)
  | charged (orderId : Uuid) (failAtCents : Int)
  | chargeThrows (orderId : Uuid)
  | emit (orderId : Uuid) (result : RequestResult)
  | emitLate (input : ChargeWorkflowInput) (outcome : ProviderResult)
  | close (orderId : Uuid)
  | reply (row : OutboxRow)

/-- The replies of the payment service come from its own outbox here. -/
def Unprompted : StockSaga.Event → Prop
  | .order (.reply ..) => False
  | _ => True

/-- The calls that end an order from outside. -/
def Call : OrderService.Transaction → Prop
  | .cancelOrder _ => True
  | .confirmOrder _ => True
  | _ => False

/-- The order service commits. -/
def System.commit (system : System) (act : OrderService.Transaction) (db : OrderService.Db) : System :=
  { system with stock := { system.stock with
    order := db
    orderLog := ⟨system.stock.order, act, db⟩ :: system.stock.orderLog } }

/-- The steps of the three services. A row for or of the payment service may
be delivered at any time and any number of times, and an execution of `emitReply`
for a charge that was decided may commit at any later time. -/
inductive Step : Event → System → System → Prop
  | stock {system stock} (event : StockSaga.Event) : Unprompted event → StockSaga.Step event system.stock stock →
      Step (.stock event) system { system with stock }
  | call {system db} (act : OrderService.Transaction) : Call act →
      OrderService.commits (Seen system.stock.orderLog system.stock.order) act system.stock.order db →
      Step (.call act) system (system.commit act db)
  | command {system payment} (row : OutboxRow) (recovers : Bool) (stamp : Stamp) : row ∈ system.stock.order.outbox →
      row.topic = .paymentCommands → system.payment.handleCommand row.envelope row.payload recovers stamp = some payment →
      Step (.command row) system { system with payment }
  | signal {system} (orderId : Uuid) (result : ProviderResult) :
      Step (.signal orderId result) system { system with payment := system.payment.signalProviderResult orderId result }
  | charged {system} (orderId : Uuid) (failAtCents : Int) :
      Step (.charged orderId failAtCents) system { system with
        payment := system.payment.charged orderId failAtCents
        decisions := system.decisions ++ (system.decision orderId failAtCents).toList }
  | chargeThrows {system} (orderId : Uuid) :
      Step (.chargeThrows orderId) system { system with payment := system.payment.chargeThrows orderId }
  | emit {system} (orderId : Uuid) (result : RequestResult) (stamp : Stamp) :
      Step (.emit orderId result) system { system with payment := system.payment.emit orderId result stamp }
  | emitLate {system} (input : ChargeWorkflowInput) (outcome : ProviderResult) (stamp : Stamp) :
      { orderId := input.orderId, totalCents := input.totalCents, ok := outcome.ok } ∈ system.decisions →
      Step (.emitLate input outcome) system { system with payment := system.payment.emitReply input outcome stamp }
  | close {system} (orderId : Uuid) :
      Step (.close orderId) system { system with payment := system.payment.close orderId }
  | reply {system db} (row : OutboxRow) (now : Nat) (stamp : Stamp) : row ∈ system.payment.outbox →
      OrderService.commits (Seen system.stock.orderLog system.stock.order)
        (.reply .payment row.envelope row.payload.orderId now stamp) system.stock.order db →
      Step (.reply row) system (system.commit (.reply .payment row.envelope row.payload.orderId now stamp) db)

abbrev Run : List (Commit System Event) → System → Prop := History System.Initial fun _ => Step

/-- Money and stock go together: an order is charged once at most, over its
total; a completed saga has charged it and holds its stock; and an order that is
charged holds its stock, with a saga that is completed or about to be. -/
structure System.Settled (system : System) : Prop where
  once : ∀ orderId, system.decisionsOf orderId = [] ∨ ∃ order ok, system.find orderId = some order ∧
    system.decisionsOf orderId = [{ orderId, totalCents := order.totalCents, ok }]
  completed : ∀ orderId saga, system.stock.order.sagas.find orderId = some saga → saga.state = .completed →
    (∃ decision ∈ system.decisionsOf orderId, decision.ok = true) ∧ system.stock.HoldsItems saga.tenantId orderId
  charged : ∀ decision ∈ system.decisions, decision.ok = true →
    ∃ saga, system.stock.order.sagas.find decision.orderId = some saga ∧
      (saga.state = .stockReserved ∨ saga.state = .completed) ∧ system.stock.HoldsItems saga.tenantId decision.orderId

/-- A confirmed order is paid for and holds its stock. -/
def System.Backs (system : System) : Prop :=
  ∀ orderId order, system.find orderId = some order → order.status = .confirmed →
    system.decisionsOf orderId = [{ orderId, totalCents := order.totalCents, ok := true }] ∧
      system.stock.HoldsItems order.tenantId orderId

/-- The order is confirmed, is paid for and holds its stock. -/
def System.Due (system : System) (tenantId orderId : Uuid) : Prop :=
  ∃ order, system.find orderId = some order ∧ order.tenantId = tenantId ∧ order.status = .confirmed ∧
    system.decisionsOf orderId = [{ orderId, totalCents := order.totalCents, ok := true }] ∧
    system.stock.HoldsItems tenantId orderId

/-- The amounts over which an order may be charged. -/
def System.totals (system : System) (orderId : Uuid) (totalCents : Int) : Prop :=
  ∃ order, system.find orderId = some order ∧ order.totalCents = totalCents

/-- How far the charge of an order is, and the decisions taken for it. -/
def Fits (orderId : Uuid) (totals : Int → Prop) : Option Workflow → List Decision → Prop
  | none, mine => mine = []
  | some (.charging input _ _), mine => input.orderId = orderId ∧ totals input.totalCents ∧ mine = []
  | some (.emitting input outcome _), mine => input.orderId = orderId ∧
    ∃ totalCents, totals totalCents ∧ mine = [{ orderId, totalCents, ok := outcome.ok }]
  | some (.completed outcome), mine => ∃ totalCents, totals totalCents ∧ mine = [{ orderId, totalCents, ok := outcome.ok }]
  | some .failed, mine => mine = [] ∨ ∃ totalCents ok, totals totalCents ∧ mine = [{ orderId, totalCents, ok }]

theorem Fits.once {orderId : Uuid} {totals : Int → Prop} {workflow : Option Workflow} {mine : List Decision}
    (fits : Fits orderId totals workflow mine) :
    mine = [] ∨ ∃ totalCents ok, totals totalCents ∧ mine = [{ orderId, totalCents, ok }] := by
  match workflow, fits with
  | none, empty => exact Or.inl empty
  | some (.charging ..), ⟨_, _, empty⟩ => exact Or.inl empty
  | some (.emitting ..), ⟨_, totalCents, total, one⟩ => exact Or.inr ⟨totalCents, _, total, one⟩
  | some (.completed _), ⟨totalCents, total, one⟩ => exact Or.inr ⟨totalCents, _, total, one⟩
  | some .failed, either => exact either

theorem Fits.mono {orderId : Uuid} {totals totals' : Int → Prop} {workflow : Option Workflow} {mine : List Decision}
    (fits : Fits orderId totals workflow mine) (more : ∀ totalCents, totals totalCents → totals' totalCents) :
    Fits orderId totals' workflow mine := by
  match workflow, fits with
  | none, empty => exact empty
  | some (.charging ..), ⟨same, total, empty⟩ => exact ⟨same, more _ total, empty⟩
  | some (.emitting ..), ⟨same, totalCents, total, one⟩ => exact ⟨same, totalCents, more _ total, one⟩
  | some (.completed _), ⟨totalCents, total, one⟩ => exact ⟨totalCents, more _ total, one⟩
  | some .failed, Or.inl empty => exact Or.inl empty
  | some .failed, Or.inr ⟨totalCents, ok, total, one⟩ => exact Or.inr ⟨totalCents, ok, more _ total, one⟩

/-- How an order stands to its charge. -/
structure Fair (orderId : Uuid) (view : View) (workflow : Option Workflow) (mine : List Decision) : Prop where
  charging : Charged orderId view
  commanded : workflow ≠ none → sentOn view.rows .paymentCommands ≠ []
  completed : view.state = some .completed → ∃ decision ∈ mine, decision.ok = true
  compensating : view.state = some .compensating → ∃ decision ∈ mine, decision.ok = false
  cancelled : view.state = some .cancelled → (∃ decision ∈ mine, decision.ok = false) ∨
    sentOn view.rows .paymentCommands = []

/-- The order moves on by what the payment service has decided. -/
theorem Fair.progress {orderId : Uuid} {view view' : View} {act : OrderService.Transaction} {workflow : Option Workflow}
    {mine : List Decision} (fair : Fair orderId view workflow mine) (progress : Progress orderId act view view')
    (succeeded : ∀ envelope now stamp, act = .reply .payment envelope orderId now stamp →
      envelope.eventType = .paymentSucceeded → ∃ decision ∈ mine, decision.ok = true)
    (failed : ∀ envelope now stamp, act = .reply .payment envelope orderId now stamp →
      envelope.eventType = .paymentFailed → ∃ decision ∈ mine, decision.ok = false) :
    Fair orderId view' workflow mine := by
  have commanded (started : workflow ≠ none) : sentOn view'.rows .paymentCommands ≠ [] := by
    have grows : sentOn view.rows .paymentCommands <+: sentOn view'.rows .paymentCommands := progress.grows.filter _
    exact fun none => fair.commanded started (List.prefix_nil.mp (none ▸ grows))
  have charging := fair.charging.progress progress
  cases progress with
  | stay => exact fair
  | place =>
    refine ⟨charging, commanded, ?_, ?_, ?_⟩ <;> intro absurd <;> cases absurd
  | @react source envelope now stamp rows order state status state' entry atOrder reaction =>
    generalize type_ : envelope.eventType = type at reaction
    cases reaction with
    | reserve => refine ⟨charging, commanded, ?_, ?_, ?_⟩ <;> intro absurd <;> cases absurd
    | reject =>
      refine ⟨charging, commanded, ?_, ?_, fun _ => Or.inr ?_⟩
      · intro absurd
        cases absurd
      · intro absurd
        cases absurd
      · -- before its stock is reserved an order is not charged
        rw [sentOn_append, OrderService.orderCancelledEvent_topic, if_neg (by decide), List.append_nil]
        refine List.eq_nil_iff_forall_not_mem.mpr fun row member => ?_
        exact (fair.charging row member).reserved rfl
    | compensate =>
      refine ⟨charging, commanded, ?_, ?_, fun _ => Or.inl (fair.compensating rfl)⟩
      · intro absurd
        cases absurd
      · intro absurd
        cases absurd
    | confirm =>
      refine ⟨charging, commanded, fun _ => succeeded envelope now stamp rfl type_, ?_, ?_⟩
      · intro absurd
        cases absurd
      · intro absurd
        cases absurd
  | @fail envelope now stamp rows status type =>
    refine ⟨charging, commanded, ?_, fun _ => failed envelope now stamp rfl type, ?_⟩
    · intro absurd
      cases absurd
    · intro absurd
      cases absurd
  | cancel => exact ⟨charging, commanded, fair.completed, fair.compensating, fair.cancelled⟩
  | confirm => exact ⟨charging, commanded, fair.completed, fair.compensating, fair.cancelled⟩
  | redrive moves =>
    refine ⟨charging, commanded, fair.completed, fair.compensating, ?_⟩
    intro absurd
    cases absurd
    cases moves

/-- A row of the payment service tells what was decided. -/
structure Reported (mine : List Decision) (row : OutboxRow) : Prop where
  addressed : row.payload.orderId = row.aggregateId
  succeeded : row.eventType = .paymentSucceeded → ∃ decision ∈ mine, decision.ok = true
  failed : row.eventType = .paymentFailed → ∃ decision ∈ mine, decision.ok = false

theorem Reported.more {mine mine' : List Decision} {row : OutboxRow} (reported : Reported mine row)
    (more : ∀ decision ∈ mine, decision ∈ mine') : Reported mine' row where
  addressed := reported.addressed
  succeeded type := by
    obtain ⟨decision, member, ok⟩ := reported.succeeded type
    exact ⟨decision, more decision member, ok⟩
  failed type := by
    obtain ⟨decision, member, declined⟩ := reported.failed type
    exact ⟨decision, more decision member, declined⟩

theorem reported_reply {outcome : ProviderResult} {orderId correlationId tenantId : Uuid} {totalCents : Int}
    {mine : List Decision} (one : mine = [{ orderId, totalCents, ok := outcome.ok }]) (stamp : Stamp) :
    Reported mine ((outcome.reply orderId correlationId).toRow tenantId stamp) := by
  subst one
  unfold ProviderResult.reply
  split
  · rename_i ok
    refine ⟨rfl, fun _ => ⟨_, List.mem_singleton_self _, ok⟩, fun absurd => ?_⟩
    cases absurd
  · rename_i declined
    refine ⟨rfl, fun absurd => ?_, fun _ => ⟨_, List.mem_singleton_self _, Bool.eq_false_iff.mpr declined⟩⟩
    cases absurd

/-- What is true of the three services between the steps. -/
structure Invariant (system : System) : Prop where
  supplied : StockSaga.Supplied system.stock
  fits : ∀ orderId, Fits orderId (system.totals orderId) (system.payment.workflows orderId) (system.decisionsOf orderId)
  fair : ∀ orderId, Fair orderId (system.stock.order.view orderId) (system.payment.workflows orderId)
    (system.decisionsOf orderId)
  reported : ∀ row ∈ system.payment.outbox, Reported (system.decisionsOf row.aggregateId) row

namespace Invariant

variable {system : System} {orderId : Uuid}

theorem initial (initial : system.Initial) : Invariant system := by
  obtain ⟨stock, payment, decisions⟩ := system
  obtain ⟨stockInitial, rfl, rfl⟩ := initial
  have none : stock.order = OrderService.Db.empty := stockInitial.order
  refine ⟨.initial stockInitial, fun orderId => rfl, fun orderId => ?_, fun row absent => absurd absent List.not_mem_nil⟩
  show Fair orderId (stock.order.view orderId) Option.none []
  rw [none]
  refine ⟨fun row absent => absurd absent List.not_mem_nil, fun absurd => (absurd rfl).elim, ?_, ?_, ?_⟩ <;>
    intro absurd <;> cases absurd

/-- An order that is charged waits to be confirmed, or is. -/
theorem state_of_charged (invariant : Invariant system) {decision : Decision} (member : decision ∈ system.decisionsOf orderId)
    (ok : decision.ok = true) : system.stock.order.sagaState orderId = some .stockReserved ∨
      system.stock.order.sagaState orderId = some .completed := by
  have fair := invariant.fair orderId
  have fits := invariant.fits orderId
  -- it is the only decision, and nothing was declined
  have accepted : ∀ other ∈ system.decisionsOf orderId, other.ok ≠ false := by
    rcases fits.once with empty | ⟨totalCents, verdict, -, one⟩
    · rw [empty] at member
      cases member
    · rw [one] at member ⊢
      cases List.mem_singleton.mp member
      intro other member'
      rw [List.mem_singleton.mp member']
      exact fun declined => Bool.noConfusion (ok.symm.trans declined)
  have started : system.payment.workflows orderId ≠ none := by
    intro none
    rw [none] at fits
    rw [show system.decisionsOf orderId = [] from fits] at member
    cases member
  obtain ⟨row, sent⟩ := List.exists_mem_of_ne_nil _ (fair.commanded started)
  have charging := fair.charging row sent
  show (system.stock.order.view orderId).state = _ ∨ (system.stock.order.view orderId).state = _
  cases atState : (system.stock.order.view orderId).state with
  | none => exact absurd atState charging.placed
  | some state =>
    cases state with
    | started => exact absurd atState charging.reserved
    | stockReserved => exact Or.inl rfl
    | completed => exact Or.inr rfl
    | compensating =>
      obtain ⟨other, declined, no⟩ := fair.compensating atState
      exact absurd no (accepted other declined)
    | cancelled =>
      rcases fair.cancelled atState with ⟨other, declined, no⟩ | empty
      · exact absurd no (accepted other declined)
      · rw [empty] at sent
        cases sent

theorem settled (invariant : Invariant system) : system.Settled := by
  refine ⟨?_, ?_, ?_⟩
  · intro orderId
    rcases (invariant.fits orderId).once with empty | ⟨totalCents, ok, ⟨order, found, rfl⟩, one⟩
    · exact Or.inl empty
    · exact Or.inr ⟨order, ok, found, one⟩
  · intro orderId saga stands completed
    have atState : (system.stock.order.view orderId).state = some .completed := by
      show (system.stock.order.sagas.find orderId).map (·.state) = _
      rw [stands, Option.map_some, completed]
    exact ⟨(invariant.fair orderId).completed atState, invariant.supplied.reserved stands (Or.inr completed)⟩
  · intro decision member ok
    have mine : decision ∈ system.decisionsOf decision.orderId := List.mem_filter.mpr ⟨member, decide_eq_true rfl⟩
    have state := invariant.state_of_charged mine ok
    unfold OrderService.Db.sagaState at state
    cases stands : system.stock.order.sagas.find decision.orderId with
    | none =>
      rw [stands] at state
      rcases state with absurd | absurd <;> cases absurd
    | some saga =>
      rw [stands] at state
      have counts : saga.state = .stockReserved ∨ saga.state = .completed := state.imp Option.some.inj Option.some.inj
      exact ⟨saga, rfl, counts, invariant.supplied.reserved stands counts⟩

/-- A completed saga has paid for its order, and holds its stock in its tenant. -/
theorem paid (invariant : Invariant system) {order : OrderService.Order} {saga : OrderService.OrderSaga}
    (found : system.find orderId = some order) (stands : system.stock.order.sagas.find orderId = some saga)
    (completed : saga.state = .completed) :
    system.decisionsOf orderId = [{ orderId, totalCents := order.totalCents, ok := true }] ∧
      system.stock.HoldsItems order.tenantId orderId := by
  obtain ⟨⟨decision, member, ok⟩, holds⟩ := invariant.settled.completed orderId saga stands completed
  have same : order.tenantId = saga.tenantId := by
    obtain ⟨other, atOther, tenant, -⟩ := holds
    cases found.symm.trans atOther
    exact tenant
  constructor
  · rcases invariant.settled.once orderId with empty | ⟨other, verdict, atOther, one⟩
    · rw [empty] at member
      cases member
    · cases found.symm.trans atOther
      rw [one] at member ⊢
      cases List.mem_singleton.mp member
      rw [show verdict = true from ok]
  · rwa [same]

theorem backs (invariant : Invariant system) (uncalled : system.stock.Uncalled) : system.Backs := by
  intro orderId order found confirmed
  have tenant := invariant.supplied.order.sameTenant orderId order.tenantId (by rw [← System.find, found, Option.map_some])
  obtain ⟨saga, stands, -⟩ := Option.map_eq_some_iff.mp tenant
  have agrees := invariant.supplied.agreement uncalled orderId order.status saga.state
    (by rw [OrderService.Db.status, ← System.find, found, Option.map_some])
    (by rw [OrderService.Db.sagaState, stands, Option.map_some])
  exact invariant.paid found stands (agrees.2.2.1.mp confirmed)

/-- An order whose confirmation has been announced is due. -/
theorem due (invariant : Invariant system) {row : OutboxRow} (mine : row ∈ (system.stock.order.view orderId).rows)
    (type : row.eventType = .orderConfirmed) : system.Due row.tenantId orderId := by
  have run := invariant.supplied.order
  have ended := run.ended orderId
  obtain ⟨confirmed, completed⟩ := ended.confirmed row mine type
  obtain ⟨-, tenant⟩ := ended.named row mine (by rw [type]; decide)
  obtain ⟨order, found, status⟩ := Option.map_eq_some_iff.mp confirmed
  obtain ⟨saga, stands, state⟩ := Option.map_eq_some_iff.mp completed
  obtain ⟨paid, holds⟩ := invariant.paid found stands state
  have same := run.sameTenant orderId order.tenantId (by rw [found, Option.map_some])
  have owner : order.tenantId = row.tenantId := Option.some.inj (same.symm.trans tenant)
  exact ⟨order, found, owner, status, paid, owner ▸ holds⟩

/-- The order service has committed. -/
theorem acted (invariant : Invariant system) {stock : StockSaga.System} {act : OrderService.Transaction}
    (supplied : StockSaga.Supplied stock)
    (next : OrderService.commits (Seen system.stock.orderLog system.stock.order) act system.stock.order stock.order)
    (succeeded : ∀ orderId envelope now stamp, act = .reply .payment envelope orderId now stamp →
      envelope.eventType = .paymentSucceeded → ∃ decision ∈ system.decisionsOf orderId, decision.ok = true)
    (failed : ∀ orderId envelope now stamp, act = .reply .payment envelope orderId now stamp →
      envelope.eventType = .paymentFailed → ∃ decision ∈ system.decisionsOf orderId, decision.ok = false) :
    Invariant { system with stock } := by
  obtain ⟨reads, later, effect⟩ := OrderService.Run.effect invariant.supplied.order next
  refine ⟨supplied, fun orderId => ?_, fun orderId => ?_, invariant.reported⟩
  · refine (invariant.fits orderId).mono ?_
    rintro totalCents ⟨order, found, total⟩
    obtain ⟨order', stands, same⟩ := effect.later.order found
    exact ⟨order', stands, (OrderService.Order.terms_totalCents same).trans total⟩
  · exact (invariant.fair orderId).progress (effect.progress later orderId) (succeeded orderId) (failed orderId)

/-- The order service stays as it is. -/
theorem supply (invariant : Invariant system) {stock : StockSaga.System} (supplied : StockSaga.Supplied stock)
    (same : stock.order = system.stock.order) : Invariant { system with stock } := by
  refine ⟨supplied, fun orderId => ?_, fun orderId => ?_, invariant.reported⟩
  · refine (invariant.fits orderId).mono ?_
    rintro totalCents ⟨order, found, total⟩
    exact ⟨order, (congrArg (fun db : OrderService.Db => db.orders.find orderId) same).trans found, total⟩
  · show Fair orderId (stock.order.view orderId) _ _
    rw [same]
    exact invariant.fair orderId

/-- The payment service has moved the charge of one order on. -/
theorem pay (invariant : Invariant system) (orderId : Uuid) {payment : PaymentService.Db} {decisions : List Decision}
    (fits : Fits orderId (system.totals orderId) (payment.workflows orderId)
      (System.decisionsOf { system with decisions } orderId))
    (commanded : payment.workflows orderId ≠ none → sentOn (rowsOf system.stock.order.outbox orderId) .paymentCommands ≠ [])
    (others : ∀ other, other ≠ orderId → payment.workflows other = system.payment.workflows other ∧
      System.decisionsOf { system with decisions } other = system.decisionsOf other)
    (grows : ∀ decision ∈ system.decisionsOf orderId, decision ∈ System.decisionsOf { system with decisions } orderId)
    (rows : ∀ row ∈ payment.outbox, row ∈ system.payment.outbox ∨
      row.aggregateId = orderId ∧ Reported (System.decisionsOf { system with decisions } orderId) row) :
    Invariant { system with payment, decisions } := by
  have kept (other : Uuid) : ∀ decision ∈ system.decisionsOf other,
      decision ∈ System.decisionsOf { system with decisions } other := by
    by_cases same : other = orderId
    · exact same ▸ grows
    · exact fun decision member => (others other same).2.symm ▸ member
  refine ⟨invariant.supplied, fun other => ?_, fun other => ?_, fun row member => ?_⟩
  · show Fits other (system.totals other) (payment.workflows other) (System.decisionsOf { system with decisions } other)
    by_cases same : other = orderId
    · exact same ▸ fits
    · rw [(others other same).1, (others other same).2]
      exact invariant.fits other
  · show Fair other (system.stock.order.view other) (payment.workflows other)
      (System.decisionsOf { system with decisions } other)
    have fair := invariant.fair other
    refine ⟨fair.charging, ?_, fun done => ?_, fun done => ?_, fun done => ?_⟩
    · by_cases same : other = orderId
      · exact same ▸ commanded
      · rw [(others other same).1]
        exact fair.commanded
    · obtain ⟨decision, member, ok⟩ := fair.completed done
      exact ⟨decision, kept other decision member, ok⟩
    · obtain ⟨decision, member, declined⟩ := fair.compensating done
      exact ⟨decision, kept other decision member, declined⟩
    · refine (fair.cancelled done).imp_left ?_
      rintro ⟨decision, member, declined⟩
      exact ⟨decision, kept other decision member, declined⟩
  · rcases rows row member with old | ⟨mine, reported⟩
    · exact (invariant.reported row old).more (kept row.aggregateId)
    · exact mine ▸ reported

/-- The workflow of an order is set, or a row about it sent, with nothing newly decided. -/
theorem move (invariant : Invariant system) (orderId : Uuid) {payment : PaymentService.Db}
    (fits : Fits orderId (system.totals orderId) (payment.workflows orderId) (system.decisionsOf orderId))
    (commanded : payment.workflows orderId ≠ none → sentOn (rowsOf system.stock.order.outbox orderId) .paymentCommands ≠ [])
    (others : ∀ other, other ≠ orderId → payment.workflows other = system.payment.workflows other)
    (rows : ∀ row ∈ payment.outbox, row ∈ system.payment.outbox ∨
      row.aggregateId = orderId ∧ Reported (system.decisionsOf orderId) row) :
    Invariant { system with payment } :=
  invariant.pay orderId fits commanded (fun other different => ⟨others other different, rfl⟩) (fun _ => id) rows

/-- The workflow of an order that has been commanded goes on. -/
theorem setWorkflow (invariant : Invariant system) {before workflow : Workflow}
    (found : system.payment.workflows orderId = some before)
    (fits : Fits orderId (system.totals orderId) (some workflow) (system.decisionsOf orderId)) :
    Invariant { system with payment := system.payment.setWorkflow orderId workflow } := by
  refine invariant.move orderId ?_ (fun _ => ?_) (fun other different => Function.update_of_ne different ..) fun _ => Or.inl
  · show Fits orderId _ (Function.update system.payment.workflows orderId (some workflow) orderId) _
    rw [Function.update_self]
    exact fits
  · refine (invariant.fair orderId).commanded ?_
    rw [found]
    exact Option.some_ne_none before

theorem command (invariant : Invariant system) {row : OutboxRow} {payment : PaymentService.Db} {recovers : Bool} {stamp : Stamp}
    (member : row ∈ system.stock.order.outbox) (topic : row.topic = .paymentCommands)
    (handled : system.payment.handleCommand row.envelope row.payload recovers stamp = some payment) :
    Invariant { system with payment } := by
  have sent : row ∈ sentOn (rowsOf system.stock.order.outbox row.aggregateId) .paymentCommands :=
    mem_sentOn.mpr ⟨mem_rowsOf.mpr ⟨member, rfl⟩, topic⟩
  obtain ⟨type, ⟨totalCents, payload⟩, -, -⟩ := (invariant.fair row.aggregateId).charging row sent
  obtain ⟨order, found, tells⟩ := invariant.supplied.order.speaks row member (by rw [type]; decide)
  rw [payload] at found tells
  have total : system.totals row.aggregateId totalCents := ⟨order, found, tells.symm⟩
  have started : sentOn (rowsOf system.stock.order.outbox row.aggregateId) .paymentCommands ≠ [] :=
    List.ne_nil_of_mem sent
  have typed : row.envelope.eventType = .chargePayment := type
  have fits := invariant.fits row.aggregateId
  unfold PaymentService.Db.handleCommand at handled
  rw [typed, payload] at handled
  cases Option.some.inj handled
  unfold PaymentService.Db.startCharge
  dsimp only
  split
  · rename_i absent
    rw [absent] at fits
    refine invariant.move row.aggregateId ?_ (fun _ => started)
      (fun other different => Function.update_of_ne different ..) fun _ => Or.inl
    show Fits row.aggregateId _ (Function.update system.payment.workflows row.aggregateId _ row.aggregateId) _
    rw [Function.update_self]
    exact ⟨rfl, total, fits⟩
  · rename_i outcome completed
    split
    · -- a charge that has completed is reported again
      have told := fits
      rw [completed] at told
      obtain ⟨amount, -, one⟩ := told
      refine invariant.move row.aggregateId fits (fun _ => started) (fun _ _ => rfl) fun other member => ?_
      rcases List.mem_append.mp member with old | new
      · exact Or.inl old
      · rw [List.mem_singleton.mp new]
        exact Or.inr ⟨outcome.reply_aggregateId .., reported_reply one stamp⟩
    · exact invariant
  · exact invariant

theorem signal (invariant : Invariant system) (orderId : Uuid) (result : ProviderResult) :
    Invariant { system with payment := system.payment.signalProviderResult orderId result } := by
  have fits := invariant.fits orderId
  unfold PaymentService.Db.signalProviderResult
  split
  · rename_i input reconciled attempts found
    rw [found] at fits
    exact invariant.setWorkflow found fits
  · exact invariant

theorem charged (invariant : Invariant system) (orderId : Uuid) (failAtCents : Int) :
    Invariant { system with
      payment := system.payment.charged orderId failAtCents
      decisions := system.decisions ++ (system.decision orderId failAtCents).toList } := by
  have fits := invariant.fits orderId
  have idle (charges : system.payment.charged orderId failAtCents = system.payment)
      (undecided : system.decision orderId failAtCents = none) : Invariant { system with
        payment := system.payment.charged orderId failAtCents
        decisions := system.decisions ++ (system.decision orderId failAtCents).toList } := by
    rw [charges, undecided, Option.toList_none, List.append_nil]
    exact invariant
  match found : system.payment.workflows orderId with
  | some (.charging input reconciled attempts) =>
    have commanded : sentOn (rowsOf system.stock.order.outbox orderId) .paymentCommands ≠ [] := by
      refine (invariant.fair orderId).commanded ?_
      rw [found]
      exact Option.some_ne_none _
    rw [found] at fits
    obtain ⟨mine, total, undecided⟩ := fits
    have new {decision : Decision} (other : Uuid) (at_ : decision.orderId = orderId) :
        System.decisionsOf { system with decisions := system.decisions ++ [decision] } other =
          system.decisionsOf other ++ if other = orderId then [decision] else [] := by
      rw [System.decisionsOf, List.filter_append, System.decisionsOf]
      by_cases same : other = orderId
      · rw [if_pos same, List.filter_cons_of_pos (by rw [at_, same]; exact decide_eq_true rfl), List.filter_nil]
      · rw [if_neg same, List.filter_cons_of_neg (by rw [at_]; simpa using Ne.symm same), List.filter_nil]
    have charges : system.payment.charged orderId failAtCents = system.payment.setWorkflow orderId
        (.emitting input (reconciled.getD (charge failAtCents input.totalCents)) 0) := by
      simp only [PaymentService.Db.charged, found]
    have decides : system.decision orderId failAtCents = some {
        orderId := input.orderId
        totalCents := input.totalCents
        ok := (reconciled.getD (charge failAtCents input.totalCents)).ok } := by
      simp only [System.decision, found]
    rw [charges, decides, Option.toList_some]
    refine invariant.pay orderId ?_ (fun _ => commanded) (fun other different => ⟨?_, ?_⟩) ?_ fun _ => Or.inl
    · show Fits orderId _ (Function.update system.payment.workflows orderId _ orderId) _
      rw [Function.update_self, new orderId mine, if_pos rfl, undecided, List.nil_append]
      exact ⟨mine, input.totalCents, total, by rw [mine]⟩
    · exact Function.update_of_ne different ..
    · rw [new other mine, if_neg different, List.append_nil]
    · rw [undecided]
      exact fun decision absent => absurd absent List.not_mem_nil
  | none => exact idle (by simp only [PaymentService.Db.charged, found]) (by simp only [System.decision, found])
  | some (.emitting ..) => exact idle (by simp only [PaymentService.Db.charged, found]) (by simp only [System.decision, found])
  | some (.completed _) => exact idle (by simp only [PaymentService.Db.charged, found]) (by simp only [System.decision, found])
  | some .failed => exact idle (by simp only [PaymentService.Db.charged, found]) (by simp only [System.decision, found])

theorem chargeThrows (invariant : Invariant system) (orderId : Uuid) :
    Invariant { system with payment := system.payment.chargeThrows orderId } := by
  have fits := invariant.fits orderId
  unfold PaymentService.Db.chargeThrows
  split
  · rename_i input reconciled attempts found
    rw [found] at fits
    refine invariant.setWorkflow found ?_
    split
    · exact fits
    · exact Or.inl fits.2.2
  · exact invariant

/-- The reply of a charge that has been decided is sent, if it has not been. -/
theorem emitReply (invariant : Invariant system) {input : ChargeWorkflowInput} {outcome : ProviderResult} {totalCents : Int}
    (mine : input.orderId = orderId)
    (one : system.decisionsOf orderId = [{ orderId, totalCents, ok := outcome.ok }]) (stamp : Stamp) :
    Invariant { system with payment := system.payment.emitReply input outcome stamp } := by
  subst mine
  refine invariant.move input.orderId ?_ ?_ (fun other _ => congrFun (PaymentService.Db.emitReply_workflows ..) other) ?_
  · rw [PaymentService.Db.emitReply_workflows]
    exact invariant.fits input.orderId
  · rw [PaymentService.Db.emitReply_workflows]
    exact (invariant.fair input.orderId).commanded
  · intro row member
    unfold PaymentService.Db.emitReply at member
    split at member
    · exact Or.inl member
    · rcases List.mem_append.mp member with old | new
      · exact Or.inl old
      · rw [List.mem_singleton.mp new]
        exact Or.inr ⟨outcome.reply_aggregateId .., reported_reply one stamp⟩

theorem emit (invariant : Invariant system) (orderId : Uuid) (result : RequestResult) (stamp : Stamp) :
    Invariant { system with payment := system.payment.emit orderId result stamp } := by
  have fits := invariant.fits orderId
  unfold PaymentService.Db.emit
  split
  · rename_i input outcome attempts found
    rw [found] at fits
    obtain ⟨mine, totalCents, total, one⟩ := fits
    have sent := invariant.emitReply mine one stamp
    have found' : (system.payment.emitReply input outcome stamp).workflows orderId = some (.emitting input outcome attempts) := by
      rw [PaymentService.Db.emitReply_workflows]
      exact found
    have retry : Fits orderId (system.totals orderId) (some (if attempts + 1 < maximumAttempts then
        .emitting input outcome (attempts + 1) else .failed)) (system.decisionsOf orderId) := by
      split
      · exact ⟨mine, totalCents, total, one⟩
      · exact Or.inr ⟨totalCents, outcome.ok, total, one⟩
    cases result with
    | done => exact sent.setWorkflow found' ⟨totalCents, total, one⟩
    | lostAnswer => exact sent.setWorkflow found' retry
    | failed => exact invariant.setWorkflow found retry
  · exact invariant

theorem emitLate (invariant : Invariant system) {input : ChargeWorkflowInput} {outcome : ProviderResult}
    (decided : { orderId := input.orderId, totalCents := input.totalCents, ok := outcome.ok } ∈ system.decisions)
    (stamp : Stamp) : Invariant { system with payment := system.payment.emitReply input outcome stamp } := by
  have member : { orderId := input.orderId, totalCents := input.totalCents, ok := outcome.ok } ∈
      system.decisionsOf input.orderId := List.mem_filter.mpr ⟨decided, decide_eq_true rfl⟩
  rcases (invariant.fits input.orderId).once with empty | ⟨totalCents, ok, -, one⟩
  · exact absurd (empty ▸ member) List.not_mem_nil
  · have same := List.mem_singleton.mp (one ▸ member)
    exact invariant.emitReply rfl (one.trans (congrArg (fun decision => [decision]) same.symm)) stamp

theorem close (invariant : Invariant system) (orderId : Uuid) :
    Invariant { system with payment := system.payment.close orderId } := by
  have fits := invariant.fits orderId
  unfold PaymentService.Db.close
  split
  · rename_i workflow found
    rw [found] at fits
    split
    · exact invariant.setWorkflow found (fits.once.imp_right fun ⟨totalCents, ok, one⟩ => ⟨totalCents, ok, one⟩)
    · exact invariant
  · exact invariant

theorem stock (invariant : Invariant system) {event : StockSaga.Event} {stock : StockSaga.System}
    (unprompted : Unprompted event) (step : StockSaga.Step event system.stock stock) : Invariant { system with stock } := by
  have supplied := invariant.supplied.step step
  cases step with
  | order act outside next =>
    refine invariant.acted supplied next ?_ ?_
    · rintro orderId envelope now stamp rfl
      exact unprompted.elim
    · rintro orderId envelope now stamp rfl
      exact unprompted.elim
  | deliver orderId now stamp found next =>
    refine invariant.acted supplied next ?_ ?_
    · intro orderId envelope now stamp absurd
      cases absurd
    · intro orderId envelope now stamp absurd
      cases absurd
  | effect => exact invariant.supply supplied rfl
  | reply => exact invariant.supply supplied rfl
  | rewindCommands => exact invariant.supply supplied rfl
  | rewindReplies => exact invariant.supply supplied rfl
  | replenish => exact invariant.supply supplied rfl

theorem step {event : Event} {system system' : System} (step : Step event system system') (invariant : Invariant system) :
    Invariant system' := by
  cases step with
  | stock event unprompted step => exact invariant.stock unprompted step
  | command row recovers stamp member topic handled => exact invariant.command member topic handled
  | call act called next =>
    have unheard {source : OrderService.ReplySource} {envelope : EventEnvelopeHeaders} {orderId : Uuid} {now : Nat}
        {stamp : Stamp} (same : act = .reply source envelope orderId now stamp) : False := by
      rw [same] at called
      exact called
    refine invariant.acted (invariant.supplied.commit next ?_ system.stock.replyOffset) next ?_ ?_
    · exact fun orderId envelope now stamp same => (unheard same).elim
    · exact fun orderId envelope now stamp same => (unheard same).elim
    · exact fun orderId envelope now stamp same => (unheard same).elim
  | signal orderId result => exact invariant.signal orderId result
  | charged orderId failAtCents => exact invariant.charged orderId failAtCents
  | chargeThrows orderId => exact invariant.chargeThrows orderId
  | emit orderId result stamp => exact invariant.emit orderId result stamp
  | emitLate input outcome stamp decided => exact invariant.emitLate decided stamp
  | close orderId => exact invariant.close orderId
  | reply row now stamp member next =>
    have reported := invariant.reported row member
    have supplied := invariant.supplied.step (.order (.reply .payment row.envelope row.payload.orderId now stamp) trivial next)
    refine invariant.acted supplied next ?_ ?_
    · intro orderId envelope now stamp same type
      cases same
      rw [reported.addressed]
      exact reported.succeeded type
    · intro orderId envelope now stamp same type
      cases same
      rw [reported.addressed]
      exact reported.failed type

end Invariant

section sample

open InventoryService (sampleIds)
open StockSaga (startSystem startSystem_initial stampSample sampleDrawn)

/-- The command that an order sends when its stock is reserved. -/
def chargeRow : OutboxRow := (OrderService.chargePaymentCommand "order" 2600 "correlation").toRow "tenant" (stampSample "charge")

def succeededRow : OutboxRow := (paymentSucceededReply "order" "correlation").toRow "tenant" (stampSample "paid")

def confirmedRow : OutboxRow :=
  (OrderService.orderConfirmedEvent "order" "user" "restaurant" 2600 "correlation").toRow "tenant" (stampSample "confirmed")

/-- An order is placed, supplied, charged and confirmed. -/
theorem settledRun : ∃ log system, Run log system ∧ system.stock.order.status "order" = some .confirmed ∧
    confirmedRow ∈ system.stock.order.outbox ∧ system.decisions = [{ orderId := "order", totalCents := 2600, ok := true }] ∧
    ∀ orderId order, system.find orderId = some order → orderId = "order" ∧ order.userId = "user" := by
  have start : Run [] ⟨startSystem, PaymentService.Db.empty, []⟩ := .start ⟨startSystem_initial, rfl, rfl⟩
  have placed := start.commit (.stock (.order OrderService.placeSample) trivial
    (.order OrderService.placeSample trivial ⟨⟨_, _⟩, .current, .current, rfl⟩))
  have replenished := placed.commit (.stock (.replenish { tenantId := "tenant", itemId := "dish" } 5) trivial
    (.replenish { tenantId := "tenant", itemId := "dish" } 5 rfl (by decide)))
  have taken := replenished.commit (.stock (.effect "order") trivial (.effect "order" sampleIds rfl (sampleDrawn rfl) rfl))
  have reserved := taken.commit (.stock (.reply "order") trivial (.reply "order" (stampSample "reserved") rfl rfl))
  have charging := reserved.commit (.stock (.deliver "order") trivial
    (.deliver "order" 1 (stampSample "charge") rfl ⟨⟨_, _⟩, .current, .current, rfl⟩))
  have commanded := charging.commit (.command chargeRow false (stampSample "again") (.tail _ (.head _)) rfl rfl)
  have charged := commanded.commit (.charged "order" 0)
  have told := charged.commit (.emit "order" .done (stampSample "paid"))
  have confirmed := told.commit (.reply succeededRow 2 (stampSample "confirmed") (.head _)
    ⟨⟨_, _⟩, .current, .current, rfl⟩)
  refine ⟨_, _, confirmed, rfl, .tail _ (.tail _ (.head _)), rfl, ?_⟩
  intro orderId order found
  rcases Table.cases_put found with ⟨same, rfl⟩ | ⟨-, found⟩
  · exact ⟨same, rfl⟩
  · rcases Table.cases_put found with ⟨same, rfl⟩ | ⟨-, found⟩
    · exact ⟨same, rfl⟩
    · rcases Table.cases_put found with ⟨same, rfl⟩ | ⟨-, found⟩
      · exact ⟨same, rfl⟩
      · cases found

end sample

end FoodDelivery.Settlement
