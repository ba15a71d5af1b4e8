import FoodDelivery.Order.Announcement
import FoodDelivery.Order.Requests

namespace FoodDelivery.OrderService

open Messaging

theorem mem_lifecycleEvents {type : EventType} : type ∈ lifecycleEvents ↔ type = .orderConfirmed ∨ type = .orderCancelled := by
  simp [lifecycleEvents]

theorem OrderStatus.final_of_event {status : OrderStatus} {type : EventType} (ends : status.event = some type) :
    status.allowedTransitions = [] := by
  cases status with
  | confirmed => rfl
  | cancelled => rfl
  | _ => cases ends

/-- An order that has ended stays so. -/
theorem Progress.stays {orderId : Uuid} {act : Transaction} {view view' : View} {status : OrderStatus}
    (progress : Progress orderId act view view') (final : status.allowedTransitions = []) (ended : view.status = some status) :
    view'.status = some status := by
  have closed {next : OrderStatus} (allowed : next ∈ status.allowedTransitions) : False := by
    rw [final] at allowed
    cases allowed
  cases progress with
  | place => cases ended
  | @react source envelope now stamp rows order state status' state' entry atOrder reaction =>
    cases Option.some.inj ended
    generalize envelope.eventType = type at reaction
    cases reaction with
    | reserve pending =>
      rw [pending] at final
      cases final
    | reject allowed => exact (closed allowed).elim
    | compensate allowed => exact (closed allowed).elim
    | confirm reserved =>
      rw [reserved] at final
      cases final
  | cancel _ allowed =>
    cases Option.some.inj ended
    exact (closed allowed).elim
  | confirm _ allowed =>
    cases Option.some.inj ended
    exact (closed allowed).elim
  | _ => exact ended

/-- What is told of the end of an order. -/
def Order.ending (order : Order) : EventType → Payload
  | .orderConfirmed => .lifecycle order.id order.userId "CONFIRMED" order.totalCents
    (if order.restaurantId = "" then none else some order.restaurantId)
  | _ => .lifecycle order.id order.userId "CANCELLED" order.totalCents none

theorem Order.ending_lifecycle (order : Order) (type : EventType) : ∃ text restaurantId,
    order.ending type = .lifecycle order.id order.userId text order.totalCents restaurantId := by
  cases type with
  | orderConfirmed => exact ⟨_, _, rfl⟩
  | _ => exact ⟨_, _, rfl⟩

/-- A row announces the end that the order has come to. -/
structure Order.Announced (order : Order) (row : OutboxRow) : Prop where
  ends : order.status.event = some row.eventType
  topic : row.topic = .orderEvents
  tenant : row.tenantId = order.tenantId
  payload : row.payload = order.ending row.eventType

theorem Order.Announced.confirmed {order : Order} {row : OutboxRow} (announced : order.Announced row)
    (type : row.eventType = .orderConfirmed) : order.status = .confirmed := by
  have ends := announced.ends
  rw [type] at ends
  cases status : order.status with
  | confirmed => rfl
  | _ =>
    rw [status] at ends
    cases ends

def Db.Announces (db : Db) : Prop := ∀ row ∈ db.outbox, row.eventType ∈ lifecycleEvents →
  ∃ order, db.orders.find row.payload.orderId = some order ∧ order.Announced row

/-- An order that has ended, later. -/
theorem Effect.ended_order {reads : Reads} {db db' : Db} {act : Transaction} (later : reads.Later db)
    (effect : Effect reads db act db') {orderId : Uuid} {order : Order} (found : db.orders.find orderId = some order)
    (final : order.status.allowedTransitions = []) :
    ∃ order', db'.orders.find orderId = some order' ∧ order'.status = order.status ∧ order'.terms = order.terms := by
  obtain ⟨order', stands, same⟩ := effect.later.order found
  have before : (db.view orderId).status = some order.status := by
    show (db.orders.find orderId).map (·.status) = _
    rw [found, Option.map_some]
  have after : (db'.orders.find orderId).map (·.status) = some order.status :=
    (effect.progress later orderId).stays final before
  rw [stands] at after
  exact ⟨order', stands, Option.some.inj after, same⟩

theorem Order.ending_eq {order order' : Order} (same : order'.terms = order.terms) (type : EventType) :
    order'.ending type = order.ending type := by
  have id := congrArg Order.id same
  dsimp only [Order.terms] at id
  unfold Order.ending
  rw [id, Order.terms_userId same, Order.terms_restaurantId same, Order.terms_totalCents same]

theorem Order.Announced.later {order order' : Order} {row : OutboxRow} (announced : order.Announced row)
    (status : order'.status = order.status) (same : order'.terms = order.terms) : order'.Announced row where
  ends := by rw [status, announced.ends]
  topic := announced.topic
  tenant := announced.tenant.trans (Order.terms_tenantId same).symm
  payload := announced.payload.trans (Order.ending_eq same row.eventType).symm

/-- The end of an order is announced with what the order says. -/
theorem Effect.announces {reads : Reads} {db db' : Db} {act : Transaction} (later : reads.Later db)
    (effect : Effect reads db act db') (announces : db.Announces) : db'.Announces := by
  have old {row : OutboxRow} (member : row ∈ db.outbox) (lifecycle : row.eventType ∈ lifecycleEvents) :
      ∃ order, db'.orders.find row.payload.orderId = some order ∧ order.Announced row := by
    obtain ⟨order, found, announced⟩ := announces row member lifecycle
    obtain ⟨order', stands, status, same⟩ := effect.ended_order later found (OrderStatus.final_of_event announced.ends)
    exact ⟨order', stands, announced.later status same⟩
  have command {row new : OutboxRow} (member : row ∈ db.outbox ++ [new]) (lifecycle : row.eventType ∈ lifecycleEvents)
      (other : new.eventType ∉ lifecycleEvents) : ∃ order, db'.orders.find row.payload.orderId = some order ∧ order.Announced row := by
    rcases List.mem_append.mp member with before | last
    · exact old before lifecycle
    · rw [List.mem_singleton.mp last] at lifecycle
      exact absurd lifecycle other
  intro row member lifecycle
  cases effect with
  | placed => exact command member lifecycle (show EventType.reserveStock ∉ lifecycleEvents by decide)
  | @reacted source envelope id now stamp order saga status state entry _ stands tenant _ _ reaction =>
    generalize envelope.eventType = replied at reaction
    generalize saga.state = from_ at reaction
    cases reaction with
    | reserve => exact command member lifecycle (show EventType.chargePayment ∉ lifecycleEvents by decide)
    | _ =>
      rcases List.mem_append.mp member with before | new
      · exact old before lifecycle
      · cases List.mem_singleton.mp new
        exact ⟨_, Table.find_put_self .., ⟨rfl, rfl, tenant.symm, rfl⟩⟩
  | compensating => exact command member lifecycle (show EventType.releaseStock ∉ lifecycleEvents by decide)
  | redriven _ _ decided =>
    exact command member lifecycle (decideReconcileAction_redrive decided).2.not_lifecycle
  | _ => exact old member lifecycle

theorem Run.announces {log : List (CommitLog.Commit Db Transaction)} {db : Db} (run : Run log db) : db.Announces := by
  induction run with
  | start first =>
    rw [first]
    exact fun row absent => absurd absent List.not_mem_nil
  | commit previous next ih =>
    obtain ⟨reads, later, effect⟩ := Run.effect previous next
    exact effect.announces later ih

/-- What the announcements of an order's end tell of it: there is one at most, it
names the order and its tenant, and the order has ended so; the confirmation
goes with the completed saga. -/
structure View.Ended (orderId : Uuid) (view : View) : Prop where
  named : ∀ row ∈ view.rows, row.eventType ∈ lifecycleEvents → row.payload.orderId = orderId ∧ view.tenantId = some row.tenantId
  confirmed : ∀ row ∈ view.rows, row.eventType = .orderConfirmed → view.status = some .confirmed ∧ view.state = some .completed
  cancelled : ∀ row ∈ view.rows, row.eventType = .orderCancelled → view.status = some .cancelled
  once : (view.rows.filter (·.eventType ∈ lifecycleEvents)).length ≤ 1
  completed : view.state = some .completed → ∃ row ∈ view.rows, row.eventType = .orderConfirmed

/-- Nothing has been announced of an order that may still change. -/
theorem View.Ended.open_rows {orderId : Uuid} {status next : OrderStatus} {state : Option SagaState} {tenantId : Option Uuid}
    {rows : List OutboxRow} (ended : View.Ended orderId ⟨some status, state, tenantId, rows⟩)
    (allowed : next ∈ status.allowedTransitions) : ∀ row ∈ rows, row.eventType ∉ lifecycleEvents := by
  intro row member lifecycle
  rcases mem_lifecycleEvents.mp lifecycle with type | type
  · cases Option.some.inj (ended.confirmed row member type).1
    cases allowed
  · cases Option.some.inj (ended.cancelled row member type)
    cases allowed

/-- The saga of an order that may still change is not completed. -/
theorem View.Ended.open_state {orderId : Uuid} {status next : OrderStatus} {state : Option SagaState} {tenantId : Option Uuid}
    {rows : List OutboxRow} (ended : View.Ended orderId ⟨some status, state, tenantId, rows⟩)
    (allowed : next ∈ status.allowedTransitions) : state ≠ some .completed := by
  intro completed
  obtain ⟨row, member, type⟩ := ended.completed completed
  exact ended.open_rows allowed row member (by rw [type]; decide)

theorem filter_lifecycle {rows : List OutboxRow} (none : ∀ row ∈ rows, row.eventType ∉ lifecycleEvents) :
    rows.filter (·.eventType ∈ lifecycleEvents) = [] :=
  List.filter_eq_nil_iff.mpr fun row member => mt of_decide_eq_true (none row member)

theorem View.Ended.append {orderId : Uuid} {view : View} (ended : view.Ended orderId) {row : OutboxRow}
    (other : row.eventType ∉ lifecycleEvents) {status : Option OrderStatus} {state : Option SagaState}
    (statusSame : status = view.status) (stateSame : state = some .completed ↔ view.state = some .completed) :
    View.Ended orderId ⟨status, state, view.tenantId, view.rows ++ [row]⟩ := by
  subst statusSame
  have old {other' : OutboxRow} (member : other' ∈ view.rows ++ [row]) (lifecycle : other'.eventType ∈ lifecycleEvents) :
      other' ∈ view.rows := by
    rcases List.mem_append.mp member with before | new
    · exact before
    · cases List.mem_singleton.mp new
      exact absurd lifecycle other
  refine ⟨fun row' member lifecycle => ended.named row' (old member lifecycle) lifecycle, ?_, ?_, ?_, ?_⟩
  · intro row' member type
    obtain ⟨confirmed, completed⟩ := ended.confirmed row' (old member (by rw [type]; decide)) type
    exact ⟨confirmed, stateSame.mpr completed⟩
  · exact fun row' member type => ended.cancelled row' (old member (by rw [type]; decide)) type
  · show ((view.rows ++ [row]).filter _).length ≤ 1
    rw [List.filter_append, filter_lifecycle (List.forall_mem_singleton.mpr other), List.append_nil]
    exact ended.once
  · intro completed
    obtain ⟨row', member, type⟩ := ended.completed (stateSame.mp completed)
    exact ⟨row', List.mem_append_left _ member, type⟩

/-- A view none of whose rows announces an end. -/
theorem View.Ended.of_open {orderId : Uuid} {view : View} (none : ∀ row ∈ view.rows, row.eventType ∉ lifecycleEvents)
    (waits : view.state ≠ some .completed) : view.Ended orderId := by
  refine ⟨fun row member lifecycle => absurd lifecycle (none row member), ?_, ?_, ?_, fun completed => absurd completed waits⟩
  · intro row member type
    exact absurd (by rw [type]; decide) (none row member)
  · intro row member type
    exact absurd (by rw [type]; decide) (none row member)
  · rw [filter_lifecycle none]
    exact Nat.zero_le 1

/-- No order ends twice. -/
theorem View.Ended.same_row {orderId : Uuid} {view : View} (ended : view.Ended orderId) {row row' : OutboxRow}
    (member : row ∈ view.rows) (lifecycle : row.eventType ∈ lifecycleEvents) (member' : row' ∈ view.rows)
    (lifecycle' : row'.eventType ∈ lifecycleEvents) : row = row' := by
  have mine : row ∈ view.rows.filter (·.eventType ∈ lifecycleEvents) := List.mem_filter.mpr ⟨member, decide_eq_true lifecycle⟩
  have mine' : row' ∈ view.rows.filter (·.eventType ∈ lifecycleEvents) := List.mem_filter.mpr ⟨member', decide_eq_true lifecycle'⟩
  obtain ⟨one, same⟩ := List.length_eq_one_iff.mp (Nat.le_antisymm ended.once (List.length_pos_of_mem mine))
  rw [same] at mine mine'
  exact (List.mem_singleton.mp mine).trans (List.mem_singleton.mp mine').symm

/-- An order ends with what announces it. -/
theorem View.Ended.close {orderId tenantId : Uuid} {status : OrderStatus} {state : SagaState} {rows : List OutboxRow} {row : OutboxRow}
    (none : ∀ row ∈ rows, row.eventType ∉ lifecycleEvents) (named : row.payload.orderId = orderId) (tenant : row.tenantId = tenantId)
    (ends : status.event = some row.eventType) (completed : status = .confirmed ↔ state = .completed) :
    View.Ended orderId ⟨some status, some state, some tenantId, rows ++ [row]⟩ := by
  have last {other : OutboxRow} (member : other ∈ rows ++ [row]) (lifecycle : other.eventType ∈ lifecycleEvents) : other = row := by
    rcases List.mem_append.mp member with old | new
    · exact absurd lifecycle (none other old)
    · exact List.mem_singleton.mp new
  refine ⟨?_, ?_, ?_, ?_, ?_⟩
  · intro other member lifecycle
    rw [last member lifecycle]
    exact ⟨named, congrArg some tenant.symm⟩
  · intro other member type
    rw [last member (by rw [type]; decide)] at type
    rw [type] at ends
    cases status with
    | confirmed => exact ⟨rfl, congrArg some (completed.mp rfl)⟩
    | _ => cases ends
  · intro other member type
    rw [last member (by rw [type]; decide)] at type
    rw [type] at ends
    cases status with
    | cancelled => rfl
    | _ => cases ends
  · show ((rows ++ [row]).filter _).length ≤ 1
    rw [List.filter_append, filter_lifecycle none, List.nil_append]
    exact List.length_filter_le _ [row]
  · intro done
    cases completed.mpr (Option.some.inj done)
    exact ⟨row, List.mem_append_right _ (List.mem_singleton_self row), (Option.some.inj ends).symm⟩

theorem Progress.ended {orderId : Uuid} {act : Transaction} {view view' : View} (progress : Progress orderId act view view')
    (ended : view.Ended orderId) : view'.Ended orderId := by
  cases progress with
  | stay => exact ended
  | @place placement now stamp rows items correlationId =>
    refine .of_open (fun row member lifecycle => ?_) nofun
    rcases List.mem_append.mp member with old | new
    · obtain ⟨-, absent⟩ := ended.named row old lifecycle
      cases absent
    · cases List.mem_singleton.mp new
      revert lifecycle
      exact show EventType.reserveStock ∉ lifecycleEvents by decide
  | @react source envelope now stamp rows order state status state' entry atOrder reaction =>
    obtain ⟨payload, -⟩ := reaction.tells
    have named : entry.payload.orderId = orderId := payload.trans atOrder
    generalize envelope.eventType = type at reaction
    cases reaction with
    | reserve pending =>
      refine .of_open (fun row member lifecycle => ?_) nofun
      rcases List.mem_append.mp member with old | new
      · exact ended.open_rows (show OrderStatus.reserved ∈ order.status.allowedTransitions by rw [pending]; decide) row old lifecycle
      · cases List.mem_singleton.mp new
        revert lifecycle
        exact show EventType.chargePayment ∉ lifecycleEvents by decide
    | reject allowed => exact .close (ended.open_rows allowed) named rfl rfl ⟨nofun, nofun⟩
    | compensate allowed => exact .close (ended.open_rows allowed) named rfl rfl ⟨nofun, nofun⟩
    | confirm reserved =>
      have allowed : OrderStatus.confirmed ∈ order.status.allowedTransitions := by
        rw [reserved]
        decide
      exact .close (ended.open_rows allowed) named rfl rfl ⟨fun _ => rfl, fun _ => rfl⟩
  | @fail envelope now stamp rows status failed =>
    exact ended.append (show EventType.releaseStock ∉ lifecycleEvents by decide) rfl ⟨nofun, nofun⟩
  | cancel _ allowed => exact .of_open (ended.open_rows allowed) (ended.open_state allowed)
  | confirm _ allowed => exact .of_open (ended.open_rows allowed) (ended.open_state allowed)
  | redrive command => exact ended.append command.not_lifecycle rfl Iff.rfl

theorem Run.ended {log : List (CommitLog.Commit Db Transaction)} {db : Db} (run : Run log db) (orderId : Uuid) :
    (db.view orderId).Ended orderId := by
  induction run with
  | start first =>
    rw [first]
    exact .of_open (fun row absent => absurd absent List.not_mem_nil) nofun
  | commit previous next ih =>
    obtain ⟨reads, later, effect⟩ := Run.effect previous next
    exact (effect.progress later orderId).ended ih

end FoodDelivery.OrderService
