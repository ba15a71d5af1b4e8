import FoodDelivery.Order.Progress

namespace FoodDelivery.OrderService

open Messaging

/-- What an order is placed for: all of it but its status. -/
def Order.terms (order : Order) : Order := { order with status := .pending, version := 0 }

/-- An order keeps its terms. -/
theorem Db.Later.order {db db' : Db} (later : db.Later db') {orderId : Uuid} {order : Order}
    (found : db.orders.find orderId = some order) :
    ∃ order', db'.orders.find orderId = some order' ∧ order'.terms = order.terms := by
  obtain ⟨order', stands, row⟩ := later.orders orderId order found
  exact ⟨order', stands, row.fixed.symm⟩

theorem Order.terms_tenantId {order order' : Order} (same : order'.terms = order.terms) : order'.tenantId = order.tenantId := by
  have kept := congrArg Order.tenantId same
  exact kept

theorem Order.terms_itemQtys {order order' : Order} (same : order'.terms = order.terms) : order'.itemQtys = order.itemQtys := by
  have kept := congrArg Order.itemQtys same
  exact kept

theorem Order.terms_totalCents {order order' : Order} (same : order'.terms = order.terms) :
    order'.totalCents = order.totalCents := by
  have kept := congrArg Order.totalCents same
  exact kept

theorem Order.terms_userId {order order' : Order} (same : order'.terms = order.terms) : order'.userId = order.userId := by
  have kept := congrArg Order.userId same
  exact kept

theorem Order.terms_restaurantId {order order' : Order} (same : order'.terms = order.terms) :
    order'.restaurantId = order.restaurantId := by
  have kept := congrArg Order.restaurantId same
  exact kept

/-- What is sent about an order agrees with the order. -/
def Order.Tells (order : Order) : Payload → Prop
  | .items _ items => items = order.itemQtys
  | .total _ totalCents => totalCents = order.totalCents
  | .lifecycle _ userId _ totalCents _ => userId = order.userId ∧ totalCents = order.totalCents
  | _ => True

/-- Apart from a release, a row speaks of an order that is there. -/
def Db.Speaks (db : Db) : Prop := ∀ row ∈ db.outbox, row.eventType ≠ .releaseStock →
  ∃ order, db.orders.find row.payload.orderId = some order ∧ order.Tells row.payload

theorem Order.Tells.terms {order order' : Order} {payload : Payload} (tells : order.Tells payload)
    (same : order'.terms = order.terms) : order'.Tells payload := by
  cases payload with
  | items => exact tells.trans (Order.terms_itemQtys same).symm
  | total => exact tells.trans (Order.terms_totalCents same).symm
  | lifecycle => exact ⟨tells.1.trans (Order.terms_userId same).symm, tells.2.trans (Order.terms_totalCents same).symm⟩
  | _ => exact tells

theorem Db.Speaks.grow {db db' : Db} (speaks : db.Speaks) (later : db.Later db')
    (rows : ∀ row ∈ db'.outbox, row ∈ db.outbox ∨ (row.eventType ≠ .releaseStock →
      ∃ order, db'.orders.find row.payload.orderId = some order ∧ order.Tells row.payload)) : db'.Speaks := by
  intro row member type
  rcases rows row member with old | new
  · obtain ⟨order, found, tells⟩ := speaks row old type
    obtain ⟨order', stands, same⟩ := later.order found
    exact ⟨order', stands, tells.terms same⟩
  · exact new type

theorem Reaction.tells {order : Order} {correlationId : Uuid} {source : ReplySource} {type : EventType}
    {state state' : SagaState} {status' : OrderStatus} {entry : OutboxCommandEntry}
    (reaction : Reaction order correlationId source type state status' state' entry) :
    entry.payload.orderId = order.id ∧ order.Tells entry.payload := by
  cases reaction with
  | reserve => exact ⟨rfl, rfl⟩
  | reject => exact ⟨rfl, rfl, rfl⟩
  | compensate => exact ⟨rfl, rfl, rfl⟩
  | confirm => exact ⟨rfl, rfl, rfl⟩

theorem SagaCommand.tells {orderId : Uuid} {order : Order} {state : SagaState} {command : OutboxCommandEntry}
    (moves : SagaCommand orderId order state command) : command.payload.orderId = orderId ∧ order.Tells command.payload := by
  cases moves with
  | reserve => exact ⟨rfl, rfl⟩
  | charge => exact ⟨rfl, rfl⟩
  | release => exact ⟨rfl, trivial⟩

theorem Effect.speaks {reads : Reads} {db db' : Db} {act : Transaction} (later : reads.Later db)
    (effect : Effect reads db act db') (speaks : db.Speaks) : db'.Speaks := by
  refine speaks.grow effect.later ?_
  have appended {outbox : List OutboxRow} {row last : OutboxRow} {P : Prop} (member : row ∈ outbox ++ [last])
      (new : row = last → P) : row ∈ outbox ∨ P := by
    rcases List.mem_append.mp member with old | single
    · exact Or.inl old
    · exact Or.inr (new (List.mem_singleton.mp single))
  cases effect with
  | @placed placement now stamp order =>
    intro row member
    refine appended member ?_
    rintro rfl -
    exact ⟨order, Table.find_put_self .., rfl⟩
  | @reacted source envelope id now stamp order saga status state entry _ stands _ _ _ reaction =>
    intro row member
    refine appended member ?_
    rintro rfl -
    obtain ⟨mine, tells⟩ := reaction.tells
    have moved : ({ order with status, version := order.version + 1 } : Order).terms = order.terms := rfl
    refine ⟨_, ?_, tells.terms moved⟩
    show Table.find (db.orders.put _) entry.payload.orderId = _
    rw [mine]
    exact Table.find_put_self ..
  | compensating =>
    intro row member
    refine appended member ?_
    rintro rfl absurd
    exact (absurd rfl).elim
  | @redriven candidate maxAttempts _ now stamp read order saga command sagaRead orderRead decided stands =>
    intro row member
    refine appended member ?_
    rintro rfl -
    obtain ⟨readFound, -⟩ := Db.findByOrderId_some.mp sagaRead
    obtain ⟨orderFound, -⟩ := Db.findById_some.mp orderRead
    have atRead : read.orderId = candidate.orderId := reads.saga.sagas.keyed _ read readFound
    obtain ⟨order', there, same⟩ := later.order.order orderFound
    obtain ⟨mine, tells⟩ := (decideReconcileAction_redrive decided).2.tells
    refine ⟨order', ?_, tells.terms same⟩
    show db.orders.find command.payload.orderId = _
    rw [mine, atRead]
    exact there
  | _ => exact fun row member => Or.inl member

theorem Run.speaks {log : List (CommitLog.Commit Db Transaction)} {db : Db} (run : Run log db) : db.Speaks := by
  induction run with
  | start first =>
    rw [first]
    exact fun row absent => absurd absent List.not_mem_nil
  | commit previous next ih =>
    obtain ⟨reads, later, effect⟩ := Run.effect previous next
    exact effect.speaks later ih

/-- An order has a saga, of its tenant. -/
def Db.SameTenant (db : Db) : Prop := ∀ orderId tenantId, (db.orders.find orderId).map (·.tenantId) = some tenantId →
  (db.sagas.find orderId).map (·.tenantId) = some tenantId

theorem Effect.sameTenant {reads : Reads} {db db' : Db} {act : Transaction} (effect : Effect reads db act db')
    (same : db.SameTenant) : db'.SameTenant := by
  intro orderId tenantId
  cases effect with
  | @placed placement now stamp order pending =>
    have tenant : order.tenantId = placement.command.tenantId := (PlaceOrderCommand.pendingOrder_ok pending).2.1
    rw [Table.map_find_put, Table.map_find_put]
    by_cases mine : orderId = order.id
    · rw [if_pos mine, if_pos (show orderId = (OrderSaga.start order.id _ _ _).orderId from mine), tenant]
      exact id
    · rw [if_neg mine, if_neg (show ¬ orderId = (OrderSaga.start order.id _ _ _).orderId from mine)]
      exact same orderId tenantId
  | reacted _ orderStands _ sagaStands =>
    rw [Table.map_find_put_same orderId orderStands, Table.map_find_put_same orderId sagaStands]
    · exact same orderId tenantId
    all_goals rfl
  | compensating _ _ stands =>
    rw [Table.map_find_put_same orderId stands]
    · exact same orderId tenantId
    all_goals rfl
  | cancelled stands =>
    rw [Table.map_find_put_same orderId stands]
    · exact same orderId tenantId
    all_goals rfl
  | confirmed stands =>
    rw [Table.map_find_put_same orderId stands]
    · exact same orderId tenantId
    all_goals rfl
  | redriven _ _ _ stands =>
    rw [Table.map_find_put_same orderId stands]
    · exact same orderId tenantId
    all_goals rfl
  | reset stands =>
    rw [Table.map_find_put_same orderId stands]
    · exact same orderId tenantId
    all_goals rfl
  | _ => exact same orderId tenantId

theorem Run.sameTenant {log : List (CommitLog.Commit Db Transaction)} {db : Db} (run : Run log db) : db.SameTenant :=
  run.invariant (fun _ _ absent => by cases absent) fun _ _ _ _ effect => effect.sameTenant

/-- As long as the saga has not failed, nothing has been released. -/
theorem StockCommands.unreleased {tenantId orderId : Uuid} {state : SagaState} {rows : List OutboxRow}
    (commands : StockCommands tenantId orderId state rows) (going : state ≠ .compensating ∧ state ≠ .cancelled) :
    ∀ row ∈ rows, row.eventType ≠ .releaseStock := by
  cases commands with
  | reserving _ all =>
    intro row member release
    cases (all row member).type.symm.trans release
  | releasing failed => exact absurd failed (not_or.mpr going)

/-- A command of an order is under its tenant. -/
theorem View.Lawful.command {orderId : Uuid} {view : View} (lawful : view.Lawful orderId) {row : OutboxRow}
    (member : row ∈ sentOn view.rows .inventoryCommands) :
    view.tenantId = some row.tenantId ∧ row.payload.orderId = orderId := by
  cases atState : view.state with
  | none =>
    rw [lawful.unplaced atState] at member
    cases member
  | some state =>
    obtain ⟨tenantId, known, commands⟩ := lawful.commands state atState
    rcases commands.either row member with ⟨-, ⟨items, payload⟩, tenant⟩ | ⟨-, payload, tenant⟩
    · exact ⟨tenant ▸ known, by rw [payload]; rfl⟩
    · exact ⟨tenant ▸ known, by rw [payload]; rfl⟩

/-- A saga that is reserved or completed has been told that its stock is reserved. -/
theorem Progress.reserved {orderId : Uuid} {act : Transaction} {view view' : View} (progress : Progress orderId act view view')
    (now_ : view'.state = some .stockReserved ∨ view'.state = some .completed) :
    (view.state = some .stockReserved ∨ view.state = some .completed) ∨
    ∃ envelope now stamp, act = .reply .inventory envelope orderId now stamp ∧ envelope.eventType = .stockReserved := by
  cases progress with
  | place => rcases now_ with absurd | absurd <;> cases absurd
  | @react source envelope now stamp rows order state status state' entry atOrder reaction =>
    generalize type_ : envelope.eventType = type at reaction
    cases reaction with
    | reserve => exact Or.inr ⟨envelope, now, stamp, rfl, type_⟩
    | confirm => exact Or.inl (Or.inl rfl)
    | reject => rcases now_ with absurd | absurd <;> cases absurd
    | compensate => rcases now_ with absurd | absurd <;> cases absurd
  | fail => exact Or.inl (Or.inl rfl)
  | _ => exact Or.inl now_

end FoodDelivery.OrderService
