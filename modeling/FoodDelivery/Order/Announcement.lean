import FoodDelivery.Order.Agreement

namespace FoodDelivery.OrderService

open Messaging CommitLog

/-- How many events of a type the outbox holds for an order. -/
def Db.announcements (db : Db) (type : EventType) (orderId : Uuid) : Nat :=
  db.outbox.countP fun row => row.eventType = type ∧ row.aggregateId = orderId

/-- A terminal order has exactly its own event in the outbox, any other order
has none. -/
def Db.Announced (db : Db) : Prop :=
  ∀ orderId status, db.status orderId = some status →
    (status = .confirmed ↔
      db.announcements .orderConfirmed orderId = 1 ∧ db.announcements .orderCancelled orderId = 0) ∧
    (status = .cancelled ↔
      db.announcements .orderCancelled orderId = 1 ∧ db.announcements .orderConfirmed orderId = 0) ∧
    (status ≠ .confirmed → status ≠ .cancelled →
      db.announcements .orderConfirmed orderId = 0 ∧ db.announcements .orderCancelled orderId = 0)

def OrderStatus.event : OrderStatus → Option EventType
  | .confirmed => some .orderConfirmed
  | .cancelled => some .orderCancelled
  | _ => none

def lifecycleEvents : List EventType := [.orderConfirmed, .orderCancelled]

/-- How many events of a type an order of a status should have. -/
def OrderStatus.due (status : OrderStatus) (type : EventType) : Nat := if status.event = some type then 1 else 0

theorem Db.announced_iff {db : Db} : db.Announced ↔ ∀ orderId status, db.status orderId = some status →
    ∀ type ∈ lifecycleEvents, db.announcements type orderId = status.due type := by
  refine forall₂_congr fun orderId status => imp_congr_right fun _ => ?_
  simp only [lifecycleEvents, List.forall_mem_cons, List.not_mem_nil, false_implies, implies_true, and_true]
  cases status <;> simp [OrderStatus.due, OrderStatus.event] <;> omega

/-- What should be in the outbox for an order id: nothing before the order is placed. -/
def Db.due (db : Db) (type : EventType) (orderId : Uuid) : Nat :=
  ((db.orders.find orderId).map (·.status.due type)).getD 0

theorem announcements_append {db db' : Db} {row : OutboxRow} (appended : db'.outbox = db.outbox ++ [row])
    (type : EventType) (orderId : Uuid) :
    db'.announcements type orderId =
      db.announcements type orderId + if row.eventType = type ∧ row.aggregateId = orderId then 1 else 0 := by
  unfold Db.announcements
  rw [appended, List.countP_append, List.countP_singleton]
  simp only [decide_eq_true_eq]

/-- A command is no announcement. -/
theorem announcements_command {db db' : Db} {row : OutboxRow} {type : EventType}
    (appended : db'.outbox = db.outbox ++ [row]) (lifecycle : type ∈ lifecycleEvents)
    (command : row.eventType ∉ lifecycleEvents) (orderId : Uuid) :
    db'.announcements type orderId = db.announcements type orderId := by
  have other : ¬ (row.eventType = type ∧ row.aggregateId = orderId) := by
    rintro ⟨rfl, -⟩
    exact command lifecycle
  rw [announcements_append appended, if_neg other, Nat.add_zero]

theorem OrderStatus.due_of_allowed {status next : OrderStatus} (allowed : next ∈ status.allowedTransitions)
    (type : EventType) : status.due type = 0 := by
  cases status with
  | pending => exact if_neg (Option.some_ne_none type).symm
  | reserved => exact if_neg (Option.some_ne_none type).symm
  | confirmed => cases allowed
  | cancelled => cases allowed

/-- A reaction makes due exactly the event it appends. -/
theorem Reaction.due {order : Order} {correlationId : Uuid} {source : ReplySource} {type : EventType}
    {state state' : SagaState} {status' : OrderStatus} {entry : OutboxCommandEntry}
    (reaction : Reaction order correlationId source type state status' state' entry) {event : EventType}
    (lifecycle : event ∈ lifecycleEvents) :
    order.status.due event = 0 ∧ entry.aggregateId = order.id ∧
      status'.due event = if entry.eventType = event then 1 else 0 := by
  have noCharge : EventType.chargePayment ≠ event := by
    rintro rfl
    simp [lifecycleEvents] at lifecycle
  cases reaction with
  | reserve pending =>
    refine ⟨by rw [pending]; rfl, rfl, ?_⟩
    exact (if_neg (Option.some_ne_none event).symm).trans (if_neg noCharge).symm
  | reject allowed => exact ⟨OrderStatus.due_of_allowed allowed event, rfl, if_congr Option.some_inj rfl rfl⟩
  | compensate allowed => exact ⟨OrderStatus.due_of_allowed allowed event, rfl, if_congr Option.some_inj rfl rfl⟩
  | confirm reserved => exact ⟨by rw [reserved]; rfl, rfl, if_congr Option.some_inj rfl rfl⟩

theorem SagaCommand.not_lifecycle {orderId : Uuid} {order : Order} {state : SagaState} {command : OutboxCommandEntry}
    (moves : SagaCommand orderId order state command) : command.eventType ∉ lifecycleEvents := by
  cases moves with
  | reserve => exact show EventType.reserveStock ∉ lifecycleEvents by decide
  | charge => exact show EventType.chargePayment ∉ lifecycleEvents by decide
  | release => exact show EventType.releaseStock ∉ lifecycleEvents by decide

/-- Apart from the bypassing calls, what a transaction appends is what it makes due. -/
theorem Effect.announcements {reads : Reads} {db db' : Db} {act : Transaction} (effect : Effect reads db act db')
    (lawful : ¬ act.BypassesSaga db) {type : EventType} (lifecycle : type ∈ lifecycleEvents) (orderId : Uuid) :
    db'.announcements type orderId + db.due type orderId = db.announcements type orderId + db'.due type orderId := by
  cases effect with
  | @placed placement now stamp order pending _ newOrder newSaga =>
    have status : order.status = .pending := (PlaceOrderCommand.pendingOrder_ok pending).2.2.2
    have noEvent : EventType.reserveStock ∉ lifecycleEvents := by decide
    rw [announcements_command rfl lifecycle noEvent]
    simp only [Db.due, Table.map_find_put, status]
    by_cases same : orderId = order.id
    · rw [if_pos same, same, newOrder]
      rfl
    · rw [if_neg same]
  | duplicate => rfl
  | ignored => rfl
  | @reacted source envelope id now stamp order saga status state entry _ orderStands _ sagaStands _ reaction =>
    have atOrder : order.id = id := db.orders.keyed id order orderStands
    obtain ⟨none, about, one⟩ := reaction.due lifecycle
    rw [announcements_append rfl]
    simp only [Db.due, Table.map_find_put, OutboxCommandEntry.toRow_eventType, OutboxCommandEntry.toRow_aggregateId,
      about, atOrder]
    by_cases same : orderId = id
    · subst same
      rw [if_pos rfl, orderStands, Option.map_some, Option.getD_some, Option.getD_some, none, one]
      simp only [and_true, Nat.add_zero]
    · rw [if_neg same, if_neg fun both => same both.2.symm]
      rfl
  | compensating =>
    have noEvent : EventType.releaseStock ∉ lifecycleEvents := by decide
    rw [announcements_command rfl lifecycle noEvent]
    rfl
  | cancelled stands allowed => exact absurd ⟨_, stands, allowed⟩ lawful
  | confirmed stands allowed => exact absurd ⟨_, stands, allowed⟩ lawful
  | skipped => rfl
  | redriven _ _ decided =>
    rw [announcements_command rfl lifecycle (decideReconcileAction_redrive decided).2.not_lifecycle]
    rfl
  | reset stands => rfl
  | notReset => rfl

/-- The outbox holds exactly the events that are due. -/
def Db.Exact (db : Db) : Prop :=
  ∀ orderId, ∀ type ∈ lifecycleEvents, db.announcements type orderId = db.due type orderId

/-- An order that was never placed has no events. -/
def Db.Unheard (db : Db) : Prop :=
  ∀ orderId, db.status orderId = none → ∀ type ∈ lifecycleEvents, db.announcements type orderId = 0

theorem Db.due_eq (db : Db) (type : EventType) (orderId : Uuid) :
    db.due type orderId = ((db.status orderId).map (·.due type)).getD 0 := by
  rw [Db.due, Db.status, Option.map_map]
  rfl

theorem Db.exact_iff {db : Db} (unheard : db.Unheard) : db.Exact ↔ db.Announced := by
  rw [Db.announced_iff]
  constructor
  · intro exact_ orderId status atStatus type lifecycle
    rw [exact_ orderId type lifecycle, db.due_eq, atStatus]
    rfl
  · intro announced orderId type lifecycle
    rw [db.due_eq]
    cases atStatus : db.status orderId with
    | none => exact unheard orderId atStatus type lifecycle
    | some status => exact announced orderId status atStatus type lifecycle

theorem Db.Later.status_none {old new : Db} (later : old.Later new) {orderId : Uuid} (absent : new.status orderId = none) :
    old.status orderId = none := by
  unfold Db.status at absent ⊢
  rw [Option.map_eq_none_iff] at absent ⊢
  cases atOld : old.orders.find orderId with
  | none => rfl
  | some row =>
    obtain ⟨row', atNew, -⟩ := later.orders orderId row atOld
    cases absent.symm.trans atNew

theorem Effect.unheard {reads : Reads} {db db' : Db} {act : Transaction} (effect : Effect reads db act db')
    (unheard : db.Unheard) : db'.Unheard := by
  intro orderId absent type lifecycle
  have absentBefore : db.status orderId = none := effect.later.status_none absent
  have before : db.announcements type orderId = 0 := unheard orderId absentBefore type lifecycle
  by_cases bypass : act.BypassesSaga db
  · obtain ⟨_, _, _, _, _, _, rfl⟩ := effect.bypass bypass
    exact before
  · have kept := effect.announcements bypass lifecycle orderId
    rw [db.due_eq, db'.due_eq, absent, absentBefore, before] at kept
    exact kept

theorem Run.unheard {log : List (Commit Db Transaction)} {db : Db} (run : Run log db) : db.Unheard :=
  run.invariant (fun _ _ _ _ => rfl) fun _ _ _ _ effect unheard => effect.unheard unheard

/-- A transaction keeps the announcements exact unless it bypasses the saga:
then the order has ended and nothing says so. -/
theorem Effect.exact_iff {reads : Reads} {db db' : Db} {act : Transaction} (effect : Effect reads db act db')
    (exact_ : db.Exact) : db'.Exact ↔ ¬ act.BypassesSaga db := by
  constructor
  · intro exact' bypass
    obtain ⟨id, order, status, stands, allowed, ends, rfl⟩ := effect.bypass bypass
    have atOrder : order.id = id := db.orders.keyed id order stands
    obtain ⟨type, lifecycle, due⟩ : ∃ type ∈ lifecycleEvents, status.due type = 1 := by
      rcases ends with rfl | rfl
      · exact ⟨.orderConfirmed, by decide, rfl⟩
      · exact ⟨.orderCancelled, by decide, rfl⟩
    have before : db.announcements type id = 0 := by
      rw [exact_ id type lifecycle, Db.due, stands]
      exact OrderStatus.due_of_allowed allowed type
    have after := exact' id type lifecycle
    simp only [Db.due, Table.map_find_put, atOrder, if_pos, Option.getD_some, due] at after
    exact absurd (before.symm.trans after) (by decide)
  · intro lawful orderId type lifecycle
    have kept := effect.announcements lawful lifecycle orderId
    have before := exact_ orderId type lifecycle
    omega

/-- In every state of a run each terminal order has been announced exactly
once, and no other order at all, exactly when no transaction of the run is a
cancel or confirm call that moves an order. -/
theorem Run.announced_iff_never_bypassed {log : List (Commit Db Transaction)} {db : Db} (run : Run log db) :
    (∀ state, Seen log db state → state.Announced) ↔ ∀ c ∈ log, ¬ c.act.BypassesSaga c.before := by
  refine run.forall_iff ?_ ?_
  · rintro _ rfl orderId _ absent
    cases absent
  · intro log db act db' previous next announced
    obtain ⟨reads, -, effect⟩ := Run.effect previous next
    have unheard : db.Unheard := Run.unheard previous
    rw [← Db.exact_iff (effect.unheard unheard)]
    exact effect.exact_iff ((Db.exact_iff unheard).mpr announced)

theorem announced_of_confirmed_sample : ∃ log db, Run log db ∧ db.status "order" = some .confirmed ∧
    ((∀ state, Seen log db state → state.Announced) ↔ ∀ c ∈ log, ¬ c.act.BypassesSaga c.before) := by
  obtain ⟨log, db, run, confirmed⟩ := replay_exists
    [replySample .payment "e2" .paymentSucceeded, replySample .inventory "e1" .stockReserved, placeSample]
    (Db.status · "order") (some .confirmed) rfl
  exact ⟨log, db, run, confirmed, run.announced_iff_never_bypassed⟩

/-- An order cancelled by its user has no event in the outbox. -/
theorem announced_broken_by_cancel : ∃ log db, Run log db ∧ ¬ db.Announced := by
  obtain ⟨log, db, run, views⟩ := replay_exists [.cancelOrder .sample, placeSample]
    (fun db => (db.status "order", db.announcements .orderCancelled "order")) (some .cancelled, 0) rfl
  obtain ⟨status, count⟩ := Prod.mk.inj views
  refine ⟨log, db, run, fun announced => ?_⟩
  have one := ((announced "order" .cancelled status).2.1.mp rfl).1
  exact absurd (count.symm.trans one) (by decide)

end FoodDelivery.OrderService
