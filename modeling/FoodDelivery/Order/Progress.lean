import FoodDelivery.Order.Agreement

namespace FoodDelivery.OrderService

open Messaging

/-- What there is of one order: its status, the state and the tenant of its
saga, and its rows in the outbox. -/
structure View where
  status : Option OrderStatus
  state : Option SagaState
  tenantId : Option Uuid
  rows : List OutboxRow

def Db.view (db : Db) (orderId : Uuid) : View where
  status := db.status orderId
  state := db.sagaState orderId
  tenantId := (db.sagas.find orderId).map (·.tenantId)
  rows := rowsOf db.outbox orderId

/-- Everything a transaction can do to one order. -/
inductive Progress (orderId : Uuid) : Transaction → View → View → Prop
  | stay {act view} : Progress orderId act view view
  | place {placement now stamp rows} (items : List ItemQty) (correlationId : Uuid) :
      Progress orderId (.placeOrder placement now stamp) ⟨none, none, none, rows⟩
        ⟨some .pending, some .started, some placement.command.tenantId,
          rows ++ [(reserveStockCommand orderId items correlationId).toRow placement.command.tenantId stamp]⟩
  | react {source envelope now stamp rows order state status state' entry} : order.id = orderId →
      Reaction order envelope.correlationId source envelope.eventType state status state' entry →
      Progress orderId (.reply source envelope orderId now stamp)
        ⟨some order.status, some state, some envelope.tenantId, rows⟩
        ⟨some status, some state', some envelope.tenantId, rows ++ [entry.toRow envelope.tenantId stamp]⟩
  | fail {envelope now stamp rows status} : envelope.eventType = .paymentFailed →
      Progress orderId (.reply .payment envelope orderId now stamp)
        ⟨status, some .stockReserved, some envelope.tenantId, rows⟩
        ⟨status, some .compensating, some envelope.tenantId,
          rows ++ [(releaseStockCommand orderId envelope.correlationId).toRow envelope.tenantId stamp]⟩
  | cancel {command status state tenantId rows} : command.orderId = orderId → .cancelled ∈ status.allowedTransitions →
      Progress orderId (.cancelOrder command) ⟨some status, state, tenantId, rows⟩ ⟨some .cancelled, state, tenantId, rows⟩
  | confirm {command status state tenantId rows} : command.orderId = orderId → .confirmed ∈ status.allowedTransitions →
      Progress orderId (.confirmOrder command) ⟨some status, state, tenantId, rows⟩ ⟨some .confirmed, state, tenantId, rows⟩
  | redrive {candidate maxAttempts randomUuid now stamp status state rows order command} :
      SagaCommand orderId order state command →
      Progress orderId (.recoverOne candidate maxAttempts randomUuid now stamp)
        ⟨status, some state, some candidate.tenantId, rows⟩
        ⟨status, some state, some candidate.tenantId, rows ++ [command.toRow candidate.tenantId stamp]⟩

theorem Reaction.aggregateId {order : Order} {correlationId : Uuid} {source : ReplySource} {type : EventType}
    {state state' : SagaState} {status' : OrderStatus} {entry : OutboxCommandEntry}
    (reaction : Reaction order correlationId source type state status' state' entry) : entry.aggregateId = order.id := by
  cases reaction <;> rfl

/-- A transaction concerns one order. -/
theorem Effect.progress {reads : Reads} {db db' : Db} {act : Transaction} (later : reads.Later db)
    (effect : Effect reads db act db') (orderId : Uuid) : Progress orderId act (db.view orderId) (db'.view orderId) := by
  unfold Db.view Db.status Db.sagaState
  cases effect with
  | @placed placement now stamp order pending _ newOrder newSaga =>
    have status : order.status = .pending := (PlaceOrderCommand.pendingOrder_ok pending).2.2.2
    have atEntry : (reserveStockCommand order.id order.itemQtys placement.correlationId).aggregateId = order.id := rfl
    simp only [Table.map_find_put, OrderSaga.start, status]
    by_cases same : orderId = order.id
    · subst same
      rw [if_pos rfl, if_pos rfl, if_pos rfl, newOrder, newSaga, rowsOf_append_self atEntry]
      exact .place _ _
    · rw [if_neg same, if_neg same, if_neg same, rowsOf_append_of_ne (atEntry.symm ▸ Ne.symm same)]
      exact .stay
  | duplicate => exact .stay
  | ignored => exact .stay
  | @reacted source envelope id now stamp order saga status state entry _ orderStands _ sagaStands sagaTenant reaction =>
    have atOrder : order.id = id := db.orders.keyed id order orderStands
    have atSaga : saga.orderId = id := db.sagas.keyed id saga sagaStands
    have atEntry : entry.aggregateId = id := reaction.aggregateId.trans atOrder
    simp only [Table.map_find_put, atOrder, atSaga]
    by_cases same : orderId = id
    · subst same
      rw [if_pos rfl, if_pos rfl, if_pos rfl, orderStands, sagaStands, rowsOf_append_self atEntry, Option.map_some,
        Option.map_some, Option.map_some, sagaTenant]
      exact .react atOrder reaction
    · rw [if_neg same, if_neg same, if_neg same, rowsOf_append_of_ne (atEntry.symm ▸ Ne.symm same)]
      exact .stay
  | @compensating envelope id now stamp saga type _ stands tenant reserved =>
    have atSaga : saga.orderId = id := db.sagas.keyed id saga stands
    have atEntry : (releaseStockCommand id envelope.correlationId).aggregateId = id := rfl
    simp only [Table.map_find_put, atSaga]
    by_cases same : orderId = id
    · subst same
      rw [if_pos rfl, if_pos rfl, stands, rowsOf_append_self atEntry, Option.map_some, Option.map_some, reserved, tenant]
      exact .fail type
    · rw [if_neg same, if_neg same, rowsOf_append_of_ne (atEntry.symm ▸ Ne.symm same)]
      exact .stay
  | @cancelled command order stands allowed =>
    have atOrder : order.id = command.orderId := db.orders.keyed _ order stands
    simp only [Table.map_find_put, atOrder]
    by_cases same : orderId = command.orderId
    · subst same
      rw [if_pos rfl, stands]
      exact .cancel rfl allowed
    · rw [if_neg same]
      exact .stay
  | @confirmed command order stands allowed =>
    have atOrder : order.id = command.orderId := db.orders.keyed _ order stands
    simp only [Table.map_find_put, atOrder]
    by_cases same : orderId = command.orderId
    · subst same
      rw [if_pos rfl, stands]
      exact .confirm rfl allowed
    · rw [if_neg same]
      exact .stay
  | skipped => exact .stay
  | @redriven candidate maxAttempts _ now stamp read order saga command sagaRead _ decided stands sameState =>
    obtain ⟨readFound, readTenant⟩ := Db.findByOrderId_some.mp sagaRead
    have atSaga : saga.orderId = candidate.orderId := db.sagas.keyed _ saga stands
    have atRead : read.orderId = candidate.orderId := reads.saga.sagas.keyed _ read readFound
    have fixed := (later.saga.sagas.row readFound stands).fixed
    have tenant : saga.tenantId = candidate.tenantId := (congrArg (fun key => key.2.1) fixed).symm.trans readTenant
    have moves : SagaCommand candidate.orderId order saga.state command := by
      have decides := (decideReconcileAction_redrive decided).2
      rw [atRead, ← sameState] at decides
      exact decides
    have atEntry : command.aggregateId = candidate.orderId := moves.aggregateId
    simp only [Table.map_find_put, atSaga]
    by_cases same : orderId = candidate.orderId
    · subst same
      rw [if_pos rfl, if_pos rfl, stands, rowsOf_append_self atEntry, Option.map_some, Option.map_some, tenant]
      exact .redrive moves
    · rw [if_neg same, if_neg same, rowsOf_append_of_ne (atEntry.symm ▸ Ne.symm same)]
      exact .stay
  | @reset tenantId id saga stands _ =>
    have atSaga : saga.orderId = id := db.sagas.keyed id saga stands
    simp only [Table.map_find_put, atSaga]
    by_cases same : orderId = id
    · subst same
      rw [if_pos rfl, if_pos rfl, stands]
      exact .stay
    · rw [if_neg same, if_neg same]
      exact .stay
  | notReset => exact .stay

/-- An event is recorded by the reply that brings it. -/
theorem Effect.processed {reads : Reads} {db db' : Db} {act : Transaction} (effect : Effect reads db act db')
    {eventId : Uuid} (recorded : eventId ∈ db'.processedEvents) : eventId ∈ db.processedEvents ∨
      ∃ source envelope orderId now stamp, act = .reply source envelope orderId now stamp ∧ eventId = envelope.eventId := by
  have either {source : ReplySource} {envelope : EventEnvelopeHeaders} {orderId : Uuid} {now : Nat} {stamp : Stamp}
      (reply : act = .reply source envelope orderId now stamp)
      (member : eventId ∈ envelope.eventId :: db.processedEvents) : eventId ∈ db.processedEvents ∨
        ∃ source envelope orderId now stamp, act = .reply source envelope orderId now stamp ∧ eventId = envelope.eventId := by
    rcases List.mem_cons.mp member with new | old
    · exact Or.inr ⟨source, envelope, orderId, now, stamp, reply, new⟩
    · exact Or.inl old
  cases effect with
  | ignored => exact either rfl recorded
  | reacted => exact either rfl recorded
  | compensating => exact either rfl recorded
  | _ => exact Or.inl recorded

/-- A ReserveStock of an order, under its tenant. -/
structure Reserving (tenantId orderId : Uuid) (row : OutboxRow) : Prop where
  type : row.eventType = .reserveStock
  payload : ∃ items, row.payload = .items orderId items
  tenant : row.tenantId = tenantId

structure Releasing (tenantId orderId : Uuid) (row : OutboxRow) : Prop where
  type : row.eventType = .releaseStock
  payload : row.payload = .order orderId
  tenant : row.tenantId = tenantId

/-- What a saga has sent to the inventory service: reserves, and after them,
once the charge has failed, releases. -/
inductive StockCommands (tenantId orderId : Uuid) : SagaState → List OutboxRow → Prop
  | reserving {state rows} : state ≠ .compensating → (∀ row ∈ rows, Reserving tenantId orderId row) →
      StockCommands tenantId orderId state rows
  | releasing {state reserves releases} : state = .compensating ∨ state = .cancelled → releases ≠ [] →
      (∀ row ∈ reserves, Reserving tenantId orderId row) → (∀ row ∈ releases, Releasing tenantId orderId row) →
      StockCommands tenantId orderId state (reserves ++ releases)

/-- An order that is not placed has no rows, and a placed one has the stock
commands of its saga. -/
structure View.Lawful (view : View) (orderId : Uuid) : Prop where
  unplaced : view.state = none → view.rows = []
  commands : ∀ state, view.state = some state →
    ∃ tenantId, view.tenantId = some tenantId ∧ StockCommands tenantId orderId state (sentOn view.rows .inventoryCommands)

theorem StockCommands.either {tenantId orderId : Uuid} {state : SagaState} {rows : List OutboxRow}
    (commands : StockCommands tenantId orderId state rows) :
    ∀ row ∈ rows, Reserving tenantId orderId row ∨ Releasing tenantId orderId row := by
  intro row member
  cases commands with
  | reserving _ all => exact Or.inl (all row member)
  | releasing _ _ before after =>
    rcases List.mem_append.mp member with old | new
    · exact Or.inl (before row old)
    · exact Or.inr (after row new)

theorem StockCommands.started {tenantId orderId : Uuid} {state : SagaState} {rows : List OutboxRow}
    (commands : StockCommands tenantId orderId state rows) (open_ : state = .started ∨ state = .stockReserved) :
    ∀ row ∈ rows, Reserving tenantId orderId row := by
  cases commands with
  | reserving _ all => exact all
  | releasing closed =>
    rcases open_ with rfl | rfl <;> rcases closed with absurd | absurd <;> cases absurd

theorem StockCommands.compensating {tenantId orderId : Uuid} {rows : List OutboxRow}
    (commands : StockCommands tenantId orderId .compensating rows) : ∃ reserves releases, rows = reserves ++ releases ∧
      releases ≠ [] ∧ (∀ row ∈ reserves, Reserving tenantId orderId row) ∧
      ∀ row ∈ releases, Releasing tenantId orderId row := by
  cases commands with
  | reserving other => exact absurd rfl other
  | releasing _ some reserves releases => exact ⟨_, _, rfl, some, reserves, releases⟩

theorem forall_mem_append_singleton {α : Type*} {P : α → Prop} {xs : List α} {x : α} (all : ∀ y ∈ xs, P y) (last : P x) :
    ∀ y ∈ xs ++ [x], P y := by
  intro y member
  rcases List.mem_append.mp member with old | new
  · exact all y old
  · exact List.mem_singleton.mp new ▸ last

/-- The commands of an order stay lawful whatever happens to it. -/
theorem Progress.lawful {orderId : Uuid} {act : Transaction} {view view' : View} (progress : Progress orderId act view view')
    (lawful : view.Lawful orderId) : view'.Lawful orderId := by
  have placed {status : Option OrderStatus} {state : SagaState} {tenantId : Uuid} {rows : List OutboxRow}
      (commands : StockCommands tenantId orderId state (sentOn rows .inventoryCommands)) :
      View.Lawful ⟨status, some state, some tenantId, rows⟩ orderId := by
    refine ⟨fun absurd => (Option.some_ne_none _ absurd).elim, ?_⟩
    intro _ same
    cases same
    exact ⟨tenantId, rfl, commands⟩
  cases progress with
  | stay => exact lawful
  | place items correlationId =>
    cases lawful.unplaced rfl
    refine placed (.reserving (by decide) ?_)
    rw [sentOn_append, reserveStockCommand_topic, if_pos rfl]
    exact List.forall_mem_singleton.mpr ⟨rfl, ⟨items, rfl⟩, rfl⟩
  | @react source envelope now stamp rows order state status state' entry atOrder reaction =>
    obtain ⟨tenantId, same, commands⟩ := lawful.commands _ rfl
    cases same
    refine placed ?_
    rw [sentOn_append]
    generalize envelope.eventType = type at reaction
    cases reaction with
    | reserve =>
      rw [chargePaymentCommand_topic, if_neg (by decide), List.append_nil]
      exact .reserving (by decide) (commands.started (Or.inl rfl))
    | reject =>
      rw [orderCancelledEvent_topic, if_neg (by decide), List.append_nil]
      exact .reserving (by decide) (commands.started (Or.inl rfl))
    | compensate =>
      rw [orderCancelledEvent_topic, if_neg (by decide), List.append_nil]
      obtain ⟨reserves, releases, same, some, first, last⟩ := commands.compensating
      exact same ▸ .releasing (Or.inr rfl) some first last
    | confirm =>
      rw [orderConfirmedEvent_topic, if_neg (by decide), List.append_nil]
      exact .reserving (by decide) (commands.started (Or.inr rfl))
  | fail type =>
    obtain ⟨tenantId, same, commands⟩ := lawful.commands _ rfl
    cases same
    refine placed ?_
    rw [sentOn_append, releaseStockCommand_topic, if_pos rfl]
    refine .releasing (Or.inl rfl) (List.cons_ne_nil _ _) (commands.started (Or.inr rfl)) ?_
    exact List.forall_mem_singleton.mpr ⟨rfl, rfl, rfl⟩
  | cancel => exact ⟨lawful.unplaced, lawful.commands⟩
  | confirm => exact ⟨lawful.unplaced, lawful.commands⟩
  | @redrive candidate _ _ _ stamp status state rows order command moves =>
    obtain ⟨tenantId, same, commands⟩ := lawful.commands _ rfl
    cases same
    refine placed ?_
    rw [sentOn_append]
    cases moves with
    | reserve correlationId =>
      rw [reserveStockCommand_topic, if_pos rfl]
      exact .reserving (by decide)
        (forall_mem_append_singleton (commands.started (Or.inl rfl)) ⟨rfl, ⟨order.itemQtys, rfl⟩, rfl⟩)
    | charge correlationId =>
      rw [chargePaymentCommand_topic, if_neg (by decide), List.append_nil]
      exact commands
    | release correlationId =>
      obtain ⟨reserves, releases, same, some, first, last⟩ := commands.compensating
      rw [releaseStockCommand_topic, if_pos rfl, same, List.append_assoc]
      exact .releasing (Or.inl rfl) (List.append_ne_nil_of_right_ne_nil _ (List.cons_ne_nil _ _)) first
        (forall_mem_append_singleton last ⟨rfl, rfl, rfl⟩)

/-- Rows are only ever appended. -/
theorem Progress.grows {orderId : Uuid} {act : Transaction} {view view' : View} (progress : Progress orderId act view view') :
    view.rows <+: view'.rows := by
  cases progress with
  | stay => exact List.prefix_rfl
  | cancel => exact List.prefix_rfl
  | confirm => exact List.prefix_rfl
  | _ => exact List.prefix_append _ _

theorem Progress.tenantId {orderId tenantId : Uuid} {act : Transaction} {view view' : View}
    (progress : Progress orderId act view view') (known : view.tenantId = some tenantId) : view'.tenantId = some tenantId := by
  cases progress with
  | place => cases known
  | _ => exact known

/-- A saga is cancelled by a refusal of its stock, or after its release. -/
theorem Progress.cancelled {orderId : Uuid} {act : Transaction} {view view' : View}
    (progress : Progress orderId act view view') (lawful : view.Lawful orderId) (ended : view'.state = some .cancelled) :
    view.state = some .cancelled ∨
    (∃ envelope now stamp, act = .reply .inventory envelope orderId now stamp ∧
      envelope.eventType = .stockReservationFailed) ∨
    ∃ row ∈ sentOn view.rows .inventoryCommands, row.eventType = .releaseStock := by
  cases progress with
  | stay => exact Or.inl ended
  | place => cases ended
  | @react source envelope now stamp rows order state status state' entry atOrder reaction =>
    generalize type_ : envelope.eventType = type at reaction
    cases reaction with
    | reserve => cases ended
    | reject => exact Or.inr (Or.inl ⟨envelope, now, stamp, rfl, type_⟩)
    | compensate =>
      obtain ⟨tenantId, -, commands⟩ := lawful.commands _ rfl
      obtain ⟨reserves, releases, same, some, -, last⟩ := commands.compensating
      obtain ⟨row, rest, rfl⟩ := List.exists_cons_of_ne_nil some
      refine Or.inr (Or.inr ⟨row, ?_, (last row (List.mem_cons_self ..)).type⟩)
      exact same ▸ List.mem_append_right _ (List.mem_cons_self ..)
    | confirm => cases ended
  | fail => cases ended
  | cancel => exact Or.inl ended
  | confirm => exact Or.inl ended
  | redrive => exact Or.inl ended

/-- After a release there are only releases. -/
theorem StockCommands.release_after {tenantId orderId : Uuid} {state : SagaState} {rows : List OutboxRow}
    (commands : StockCommands tenantId orderId state rows) {m n : Nat} {first last : OutboxRow} (le : m ≤ n)
    (atFirst : rows[m]? = some first) (release : first.eventType = .releaseStock) (atLast : rows[n]? = some last) :
    last.eventType = .releaseStock := by
  have reserve {row : OutboxRow} (reserving : Reserving tenantId orderId row) : row.eventType ≠ .releaseStock := by
    rw [reserving.type]
    decide
  cases commands with
  | reserving _ all => exact absurd release (reserve (all first (List.mem_of_getElem? atFirst)))
  | @releasing reserves releases _ _ before after =>
    by_cases early : m < reserves.length
    · rw [List.getElem?_append_left early] at atFirst
      exact absurd release (reserve (before first (List.mem_of_getElem? atFirst)))
    · rw [List.getElem?_append_right (by omega)] at atLast
      exact (after last (List.mem_of_getElem? atLast)).type

end FoodDelivery.OrderService
