import FoodDelivery.Order.Transactions

namespace FoodDelivery.OrderService

open Messaging CommitLog

def Db.status (db : Db) (orderId : Uuid) : Option OrderStatus := (db.orders.find orderId).map (·.status)

def Db.sagaState (db : Db) (orderId : Uuid) : Option SagaState := (db.sagas.find orderId).map (·.state)

/-- The order's status says what its saga's state says. -/
def Agrees (status : OrderStatus) (state : SagaState) : Prop :=
  (status = .pending ↔ state = .started) ∧
  (status = .reserved ↔ state = .stockReserved ∨ state = .compensating) ∧
  (status = .confirmed ↔ state = .completed) ∧
  (status = .cancelled ↔ state = .cancelled)

instance (status : OrderStatus) (state : SagaState) : Decidable (Agrees status state) :=
  inferInstanceAs (Decidable (_ ∧ _ ∧ _ ∧ _))

def Db.Agreement (db : Db) : Prop :=
  ∀ orderId status state, db.status orderId = some status → db.sagaState orderId = some state → Agrees status state

/-- Every order has its saga. -/
def Db.Paired (db : Db) : Prop :=
  ∀ orderId status, db.status orderId = some status → ∃ state, db.sagaState orderId = some state

/-- A cancel or confirm call that moves an order on behind its saga's back. -/
def Transaction.BypassesSaga (db : Db) : Transaction → Prop
  | .cancelOrder command => ∃ order, db.orders.find command.orderId = some order ∧
      .cancelled ∈ order.status.allowedTransitions
  | .confirmOrder command => ∃ order, db.orders.find command.orderId = some order ∧
      .confirmed ∈ order.status.allowedTransitions
  | _ => False

/-- The moves an order and its saga make together. -/
inductive Move : Option OrderStatus → Option SagaState → Option OrderStatus → Option SagaState → Prop
  | stay {status state} : Move status state status state
  | place : Move none none (some .pending) (some .started)
  | reserve : Move (some .pending) (some .started) (some .reserved) (some .stockReserved)
  | reject {status} : Move (some status) (some .started) (some .cancelled) (some .cancelled)
  | confirm : Move (some .reserved) (some .stockReserved) (some .confirmed) (some .completed)
  | fail {status} : Move status (some .stockReserved) status (some .compensating)
  | compensate {status} : Move (some status) (some .compensating) (some .cancelled) (some .cancelled)

theorem Reaction.move {order : Order} {correlationId : Uuid} {source : ReplySource} {type : EventType}
    {state state' : SagaState} {status' : OrderStatus} {entry : OutboxCommandEntry}
    (reaction : Reaction order correlationId source type state status' state' entry) :
    Move (some order.status) (some state) (some status') (some state') := by
  cases reaction with
  | reserve pending => exact pending ▸ .reserve
  | reject => exact .reject
  | compensate => exact .compensate
  | confirm reserved => exact reserved ▸ .confirm

/-- Apart from the bypassing calls, a transaction moves an order and its saga
together or not at all. -/
theorem Effect.move {reads : Reads} {db db' : Db} {act : Transaction} (effect : Effect reads db act db')
    (lawful : ¬ act.BypassesSaga db) (orderId : Uuid) :
    Move (db.status orderId) (db.sagaState orderId) (db'.status orderId) (db'.sagaState orderId) := by
  unfold Db.status Db.sagaState
  cases effect with
  | @placed placement now stamp order pending _ newOrder newSaga =>
    have status : order.status = .pending := (PlaceOrderCommand.pendingOrder_ok pending).2.2.2
    simp only [Table.map_find_put, OrderSaga.start, status]
    by_cases same : orderId = order.id
    · subst same
      rw [if_pos rfl, if_pos rfl, newOrder, newSaga]
      exact .place
    · rw [if_neg same, if_neg same]
      exact .stay
  | duplicate => exact .stay
  | ignored => exact .stay
  | @reacted source envelope id now stamp order saga status state entry _ orderStands _ sagaStands _ reaction =>
    have atOrder : order.id = id := db.orders.keyed id order orderStands
    have atSaga : saga.orderId = id := db.sagas.keyed id saga sagaStands
    simp only [Table.map_find_put, atOrder, atSaga]
    by_cases same : orderId = id
    · subst same
      rw [if_pos rfl, if_pos rfl, orderStands, sagaStands]
      exact reaction.move
    · rw [if_neg same, if_neg same]
      exact .stay
  | @compensating envelope id now stamp saga _ _ stands _ reserved =>
    have atSaga : saga.orderId = id := db.sagas.keyed id saga stands
    simp only [Table.map_find_put, atSaga]
    by_cases same : orderId = id
    · subst same
      rw [if_pos rfl, stands, Option.map_some, reserved]
      exact .fail
    · rw [if_neg same]
      exact .stay
  | cancelled stands allowed => exact absurd ⟨_, stands, allowed⟩ lawful
  | confirmed stands allowed => exact absurd ⟨_, stands, allowed⟩ lawful
  | skipped => exact .stay
  | @redriven candidate _ _ now _ _ _ saga _ _ _ _ stands _ =>
    rw [Table.map_find_put_same orderId stands]
    · exact .stay
    · rfl
    · rfl
  | @reset tenantId id saga stands _ =>
    rw [Table.map_find_put_same orderId stands]
    · exact .stay
    · rfl
    · rfl
  | notReset => exact .stay

theorem Agrees.unique {status status' : OrderStatus} {state : SagaState} (agrees : Agrees status state)
    (agrees' : Agrees status' state) : status = status' := by
  revert agrees agrees'
  cases status <;> cases status' <;> cases state <;> decide

theorem Move.agrees {status status' : Option OrderStatus} {state state' : Option SagaState}
    (move : Move status state status' state')
    (agree : ∀ s t, status = some s → state = some t → Agrees s t) :
    ∀ s t, status' = some s → state' = some t → Agrees s t := by
  intro s t atStatus atState
  cases move with
  | stay => exact agree s t atStatus atState
  | place => cases atStatus; cases atState; decide
  | reserve => cases atStatus; cases atState; decide
  | reject => cases atStatus; cases atState; decide
  | confirm => cases atStatus; cases atState; decide
  | fail =>
    have before : Agrees s .stockReserved := agree s _ atStatus rfl
    have reserved : s = .reserved := before.2.1.mpr (Or.inl rfl)
    cases atState
    subst reserved
    decide
  | compensate => cases atStatus; cases atState; decide

theorem Move.paired {status status' : Option OrderStatus} {state state' : Option SagaState}
    (move : Move status state status' state') (paired : ∀ s, status = some s → ∃ t, state = some t) :
    ∀ s, status' = some s → ∃ t, state' = some t := by
  intro s atStatus
  cases move with
  | stay => exact paired s atStatus
  | _ => exact ⟨_, rfl⟩

/-- A bypassing call ends one order, and writes nothing else. -/
theorem Effect.bypass {reads : Reads} {db db' : Db} {act : Transaction} (effect : Effect reads db act db')
    (bypass : act.BypassesSaga db) :
    ∃ orderId order status, db.orders.find orderId = some order ∧ status ∈ order.status.allowedTransitions ∧
      (status = .confirmed ∨ status = .cancelled) ∧
        db' = { db with orders := db.orders.put { order with status, version := order.version + 1 } } := by
  cases effect with
  | cancelled stands allowed => exact ⟨_, _, _, stands, allowed, Or.inr rfl, rfl⟩
  | confirmed stands allowed => exact ⟨_, _, _, stands, allowed, Or.inl rfl, rfl⟩
  | _ => exact bypass.elim

theorem Effect.paired {reads : Reads} {db db' : Db} {act : Transaction} (effect : Effect reads db act db')
    (paired : db.Paired) : db'.Paired := by
  intro orderId
  by_cases lawful : act.BypassesSaga db
  · obtain ⟨id, order, status, stands, -, -, rfl⟩ := effect.bypass lawful
    have atOrder : order.id = id := db.orders.keyed id order stands
    intro s atStatus
    simp only [Db.status, Table.map_find_put, atOrder] at atStatus
    by_cases same : orderId = id
    · subst same
      exact paired orderId order.status (by rw [Db.status, stands]; rfl)
    · rw [if_neg same] at atStatus
      exact paired orderId s atStatus
  · exact (effect.move lawful orderId).paired (paired orderId)

theorem OrderStatus.allowed_ne {status next : OrderStatus} (allowed : next ∈ status.allowedTransitions) :
    next ≠ status := by
  rintro rfl
  cases next <;> simp [OrderStatus.allowedTransitions] at allowed

/-- A transaction keeps orders and sagas in agreement unless it bypasses the saga. -/
theorem Effect.agreement_iff {reads : Reads} {db db' : Db} {act : Transaction} (effect : Effect reads db act db')
    (paired : db.Paired) (agree : db.Agreement) : db'.Agreement ↔ ¬ act.BypassesSaga db := by
  constructor
  · intro agree' bypass
    obtain ⟨id, order, status, stands, allowed, -, rfl⟩ := effect.bypass bypass
    have atOrder : order.id = id := db.orders.keyed id order stands
    have before : db.status id = some order.status := by rw [Db.status, stands]; rfl
    have after : Db.status { db with
        orders := db.orders.put { order with status, version := order.version + 1 } } id = some status := by
      simp only [Db.status, Table.map_find_put, atOrder, if_pos]
    obtain ⟨state, atState⟩ := paired id order.status before
    have same : status = order.status := (agree' id status state after atState).unique (agree id _ state before atState)
    exact OrderStatus.allowed_ne allowed same
  · intro lawful orderId
    exact (effect.move lawful orderId).agrees (agree orderId)

theorem Run.paired {log : List (Commit Db Transaction)} {db : Db} (run : Run log db) : db.Paired :=
  run.invariant (fun _ _ absent => by cases absent) fun _ _ _ _ effect paired => effect.paired paired

/-- Orders and sagas agree in every state of a run exactly when none of its
transactions is a cancel or confirm call that moves an order. -/
theorem Run.agreement_iff_never_bypassed {log : List (Commit Db Transaction)} {db : Db} (run : Run log db) :
    (∀ state, Seen log db state → state.Agreement) ↔ ∀ c ∈ log, ¬ c.act.BypassesSaga c.before := by
  refine run.forall_iff ?_ ?_
  · rintro _ rfl orderId _ _ absent
    cases absent
  · intro log db act db' previous next agree
    obtain ⟨reads, -, effect⟩ := Run.effect previous next
    exact effect.agreement_iff (Run.paired previous) agree

theorem agreement_of_reserved_sample : ∃ log db, Run log db ∧ db.status "order" = some .reserved ∧
    ((∀ state, Seen log db state → state.Agreement) ↔ ∀ c ∈ log, ¬ c.act.BypassesSaga c.before) := by
  obtain ⟨log, db, run, reserved⟩ := replay_exists [replySample .inventory "e1" .stockReserved, placeSample]
    (Db.status · "order") (some .reserved) rfl
  exact ⟨log, db, run, reserved, run.agreement_iff_never_bypassed⟩

/-- A user cancels an order while its stock is being reserved: the order is
cancelled and its saga still started. -/
theorem agreement_broken_by_cancel : ∃ log db, Run log db ∧ ¬ db.Agreement := by
  obtain ⟨log, db, run, views⟩ := replay_exists [.cancelOrder .sample, placeSample]
    (fun db => (db.status "order", db.sagaState "order")) (some .cancelled, some .started) rfl
  obtain ⟨status, state⟩ := Prod.mk.inj views
  refine ⟨log, db, run, fun agree => ?_⟩
  exact absurd (agree "order" _ _ status state) (by decide)

end FoodDelivery.OrderService
