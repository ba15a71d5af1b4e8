import FoodDelivery.Analytics.Revenue
import FoodDelivery.Saga.Settlement

namespace FoodDelivery.Books

open Messaging CommitLog Analytics Replacing
open Settlement (Decision System)

/-- The payload of a row, as the analytics consumer reads it. -/
def payloadOf : Payload → OrderLifecyclePayload
  | .lifecycle orderId userId _ totalCents restaurantId =>
    { orderId := some orderId, userId := some userId, totalCents := some totalCents, restaurantId }
  | .total orderId totalCents => { orderId := some orderId, userId := none, totalCents := some totalCents, restaurantId := none }
  | payload => { orderId := some payload.orderId, userId := none, totalCents := none, restaurantId := none }

/-- The delivery is of a row that was written at a time, in milliseconds. -/
structure Reads (newDate : String → Option Int) (writtenAt : OutboxRow → Int) (row : OutboxRow) (delivery : Delivery) : Prop where
  envelope : delivery.envelope = row.envelope
  occurredAt : newDate delivery.occurredAt = some (writtenAt row)
  payload : delivery.payload = payloadOf row.payload

/-- The analytics service has been delivered all of the order service's topic, in
any order and any number of times. -/
structure Ingests (newDate : String → Option Int) (writtenAt : OutboxRow → Int) (outbox : List OutboxRow)
    (deliveries : List Delivery) : Prop where
  all : ∀ row ∈ outbox, row.topic = .orderEvents → ∃ delivery ∈ deliveries, Reads newDate writtenAt row delivery
  only : ∀ delivery ∈ deliveries, ∃ row ∈ outbox, row.topic = .orderEvents ∧ Reads newDate writtenAt row delivery

/-- Orders and their customers have names. -/
def Named (db : OrderService.Db) : Prop :=
  ∀ orderId order, db.orders.find orderId = some order → orderId ≠ "" ∧ order.userId ≠ ""

/-- The confirmation of an order was written in the range. -/
def Confirms (writtenAt : OutboxRow → Int) (tenantId orderId : Uuid) (range : DateRange) (row : OutboxRow) : Prop :=
  row.eventType = .orderConfirmed ∧ row.aggregateId = orderId ∧ row.tenantId = tenantId ∧
    range.fromTime ≤ writtenAt row ∧ writtenAt row ≤ range.toTime

instance (writtenAt : OutboxRow → Int) (tenantId orderId : Uuid) (range : DateRange) :
    DecidablePred (Confirms writtenAt tenantId orderId range) :=
  fun row => inferInstanceAs (Decidable (row.eventType = .orderConfirmed ∧ _))

/-- The approved charges of a tenant whose orders were confirmed in a range. -/
def booked (system : System) (writtenAt : OutboxRow → Int) (tenantId : Uuid) (range : DateRange) : List Decision :=
  system.decisions.filter fun decision =>
    decision.ok ∧ ∃ row ∈ system.stock.order.outbox, Confirms writtenAt tenantId decision.orderId range row

def statusOf : EventType → Option OrderFactStatus
  | .orderConfirmed => some .confirmed
  | .orderCancelled => some .cancelled
  | _ => none

/-- The end of an order that a row announces. -/
def eventOf (writtenAt : OutboxRow → Int) (row : OutboxRow) : Option OrderEvent :=
  match statusOf row.eventType, row.payload with
  | some status, .lifecycle orderId userId _ totalCents restaurantId =>
    if named : orderId ≠ "" ∧ userId ≠ "" then
      some
        { tenantId := row.tenantId
          orderId, userId, restaurantId, status, totalCents
          occurredAt := writtenAt row
          order_named := named.1
          user_named := named.2 }
    else none
  | _, _ => none

def events (writtenAt : OutboxRow → Int) (rows : List OutboxRow) : Finset OrderEvent := (rows.filterMap (eventOf writtenAt)).toFinset

/-- What is decided for the order of an event. -/
def decisionOf (event : OrderEvent) : Decision := { orderId := event.orderId, totalCents := event.totalCents, ok := true }

section ends

variable {newDate : String → Option Int} {writtenAt : OutboxRow → Int} {row : OutboxRow} {rows : List OutboxRow} {event : OrderEvent}
  {db : OrderService.Db} {deliveries : List Delivery}

theorem mem_events : event ∈ events writtenAt rows ↔ ∃ row ∈ rows, eventOf writtenAt row = some event := by
  rw [events, List.mem_toFinset, List.mem_filterMap]

/-- A row tells of an event. -/
structure Tells (writtenAt : OutboxRow → Int) (row : OutboxRow) (event : OrderEvent) : Prop where
  tenantId : row.tenantId = event.tenantId
  orderId : row.payload.orderId = event.orderId
  eventType : row.eventType = event.status.eventType
  occurredAt : writtenAt row = event.occurredAt
  payload : payloadOf row.payload =
    { orderId := some event.orderId
      userId := some event.userId
      totalCents := some event.totalCents
      restaurantId := event.restaurantId }

theorem statusOf_eq_some {type : EventType} {status : OrderFactStatus} (known : statusOf type = some status) :
    type = status.eventType := by
  cases type with
  | orderConfirmed =>
    cases known
    rfl
  | orderCancelled =>
    cases known
    rfl
  | _ => cases known

theorem statusOf_lifecycle {type : EventType} (lifecycle : type ∈ OrderService.lifecycleEvents) : ∃ status, statusOf type = some status := by
  rcases OrderService.mem_lifecycleEvents.mp lifecycle with rfl | rfl
  · exact ⟨.confirmed, rfl⟩
  · exact ⟨.cancelled, rfl⟩

theorem tells_of_eventOf (told : eventOf writtenAt row = some event) : Tells writtenAt row event := by
  unfold eventOf at told
  split at told
  · rename_i known payload
    split at told
    · cases told
      refine ⟨rfl, ?_, statusOf_eq_some known, rfl, ?_⟩
      · rw [payload]
        rfl
      · rw [payload]
        rfl
    · cases told
  · cases told

theorem Tells.lifecycle (tells : Tells writtenAt row event) : row.eventType ∈ OrderService.lifecycleEvents := by
  rw [tells.eventType]
  cases event.status with
  | confirmed => exact List.mem_cons_self
  | cancelled => exact List.mem_cons_of_mem _ List.mem_cons_self

theorem Tells.confirmed_iff (tells : Tells writtenAt row event) : row.eventType = .orderConfirmed ↔ event.status = .confirmed := by
  rw [tells.eventType]
  cases event.status with
  | confirmed => exact iff_of_true rfl rfl
  | cancelled => exact iff_of_false nofun nofun

/-- A delivery of the row carries the event. -/
theorem Tells.carries (tells : Tells writtenAt row event) {delivery : Delivery} (reads : Reads newDate writtenAt row delivery) :
    Carries newDate delivery event where
  tenantId := by
    rw [reads.envelope]
    exact tells.tenantId
  eventType := by
    rw [reads.envelope]
    exact tells.eventType
  occurredAt := by rw [reads.occurredAt, tells.occurredAt]
  payload := by rw [reads.payload, tells.payload]

/-- The end of a named order makes an event. -/
theorem exists_event (writtenAt : OutboxRow → Int) (announces : db.Announces) (named : Named db) (member : row ∈ db.outbox)
    (lifecycle : row.eventType ∈ OrderService.lifecycleEvents) :
    ∃ event order, eventOf writtenAt row = some event ∧ db.orders.find row.payload.orderId = some order ∧
      event.totalCents = order.totalCents := by
  obtain ⟨order, found, announced⟩ := announces row member lifecycle
  obtain ⟨orderNamed, userNamed⟩ := named _ order found
  obtain ⟨status, known⟩ := statusOf_lifecycle lifecycle
  obtain ⟨text, restaurantId, ending⟩ := order.ending_lifecycle row.eventType
  have payload := announced.payload.trans ending
  rw [← db.orders.keyed _ order found] at orderNamed
  unfold eventOf
  rw [known, payload]
  rw [payload] at found
  exact ⟨_, order, dif_pos ⟨orderNamed, userNamed⟩, found, rfl⟩

section run

variable {log : List (Commit OrderService.Db OrderService.Transaction)} (run : OrderService.Run log db)

include run in
theorem Tells.mine (tells : Tells writtenAt row event) (member : row ∈ db.outbox) :
    row.aggregateId = event.orderId ∧ row ∈ (db.view event.orderId).rows := by
  have about : row ∈ (db.view row.aggregateId).rows := mem_rowsOf.mpr ⟨member, rfl⟩
  obtain ⟨same, -⟩ := (run.ended row.aggregateId).named row about tells.lifecycle
  have orderId : row.aggregateId = event.orderId := same.symm.trans tells.orderId
  exact ⟨orderId, orderId ▸ about⟩

include run in
/-- An order ends once. -/
theorem events_distinct : Set.InjOn OrderEvent.order (events writtenAt db.outbox) := by
  intro event member event' member' same
  obtain ⟨row, inRows, told⟩ := mem_events.mp member
  obtain ⟨row', inRows', told'⟩ := mem_events.mp member'
  have tells := tells_of_eventOf told
  have tells' := tells_of_eventOf told'
  obtain ⟨-, mine⟩ := tells.mine run inRows
  obtain ⟨-, mine'⟩ := tells'.mine run inRows'
  have order : event'.orderId = event.orderId := congrArg Prod.snd same.symm
  rw [order] at mine'
  have one := (run.ended event.orderId).same_row mine tells.lifecycle mine' tells'.lifecycle
  rw [← one] at told'
  exact Option.some.inj (told.symm.trans told')

include run in
/-- What the analytics service is delivered are the ends of the orders. -/
theorem delivered (named : Named db) (ingests : Ingests newDate writtenAt db.outbox deliveries) :
    Delivered newDate (events writtenAt db.outbox) deliveries := by
  refine ⟨events_distinct run, ?_, ?_⟩
  · intro event member
    obtain ⟨row, inRows, told⟩ := mem_events.mp member
    have tells := tells_of_eventOf told
    obtain ⟨order, -, announced⟩ := run.announces row inRows tells.lifecycle
    obtain ⟨delivery, inDeliveries, reads⟩ := ingests.all row inRows announced.topic
    exact ⟨delivery, inDeliveries, tells.carries reads⟩
  · intro delivery member terminal
    obtain ⟨row, inRows, -, reads⟩ := ingests.only delivery member
    rw [Delivery.Terminal, reads.envelope] at terminal
    obtain ⟨event, -, told, -⟩ := exists_event writtenAt run.announces named inRows (OrderService.mem_lifecycleEvents.mpr terminal)
    exact ⟨event, mem_events.mpr ⟨row, inRows, told⟩, (tells_of_eventOf told).carries reads⟩

end run

end ends

section booked

variable {system : System} {writtenAt : OutboxRow → Int} {tenantId : Uuid} {range : DateRange} {decision : Decision}

theorem mem_booked : decision ∈ booked system writtenAt tenantId range ↔
    decision ∈ system.decisions ∧ decision.ok = true ∧
      ∃ row ∈ system.stock.order.outbox, Confirms writtenAt tenantId decision.orderId range row := by
  rw [booked, List.mem_filter, decide_eq_true_iff]

/-- No order is charged twice. -/
theorem decisions_nodup (settled : system.Settled) : system.decisions.Nodup := by
  refine List.nodup_iff_count_le_one.mpr fun decision => ?_
  have mine : (system.decisionsOf decision.orderId).count decision = system.decisions.count decision :=
    List.count_filter (decide_eq_true rfl)
  rw [← mine]
  refine List.count_le_length.trans ?_
  rcases settled.once decision.orderId with empty | ⟨order, ok, -, one⟩
  · rw [empty]
    exact Nat.zero_le 1
  · rw [one]
    exact Nat.le_refl 1

/-- What is decided for a confirmed order is what its event says. -/
theorem decision_of_confirmed (invariant : Settlement.Invariant system) {row : OutboxRow} {event : OrderEvent}
    (member : row ∈ system.stock.order.outbox) (told : eventOf writtenAt row = some event) (confirmed : event.status = .confirmed) :
    system.decisionsOf event.orderId = [decisionOf event] := by
  have run := invariant.supplied.order
  have tells := tells_of_eventOf told
  obtain ⟨-, mine⟩ := tells.mine run member
  obtain ⟨order, found, -, -, paid, -⟩ := invariant.due mine (tells.confirmed_iff.mpr confirmed)
  obtain ⟨order', found', announced⟩ := run.announces row member tells.lifecycle
  rw [tells.orderId] at found'
  cases found.symm.trans found'
  obtain ⟨text, restaurantId, ending⟩ := order.ending_lifecycle row.eventType
  have payload := tells.payload
  rw [announced.payload.trans ending] at payload
  injection payload with _ _ total
  rw [paid, decisionOf, Option.some.inj total]

/-- What is booked are the decisions of the confirmed orders in the range. -/
theorem booked_perm (invariant : Settlement.Invariant system) (named : Named system.stock.order) :
    (booked system writtenAt tenantId range).Perm
      ((having (events writtenAt system.stock.order.outbox) tenantId range .confirmed).toList.map decisionOf) := by
  have run := invariant.supplied.order
  have nodup : ((having (events writtenAt system.stock.order.outbox) tenantId range .confirmed).toList.map decisionOf).Nodup := by
    refine List.Nodup.map_on ?_ (Finset.nodup_toList _)
    intro event member event' member' same
    obtain ⟨inEvents, tenant, -⟩ := Finset.mem_filter.mp (Finset.mem_toList.mp member)
    obtain ⟨inEvents', tenant', -⟩ := Finset.mem_filter.mp (Finset.mem_toList.mp member')
    exact events_distinct run inEvents inEvents' (Prod.ext (tenant.trans tenant'.symm) (congrArg Decision.orderId same))
  refine (List.perm_ext_iff_of_nodup (List.Nodup.filter _ (decisions_nodup invariant.settled)) nodup).mpr fun decision => ?_
  refine mem_booked.trans (Iff.trans ?_ List.mem_map.symm)
  constructor
  · rintro ⟨charged, -, row, inRows, type, about, tenant, within⟩
    obtain ⟨event, -, told, -⟩ := exists_event writtenAt run.announces named inRows (OrderService.mem_lifecycleEvents.mpr (Or.inl type))
    have tells := tells_of_eventOf told
    obtain ⟨orderId, -⟩ := tells.mine run inRows
    have confirmed := tells.confirmed_iff.mp type
    refine ⟨event, Finset.mem_toList.mpr (Finset.mem_filter.mpr ⟨mem_events.mpr ⟨row, inRows, told⟩, ?_, ?_, confirmed⟩), ?_⟩
    · rw [← tells.tenantId, tenant]
    · rw [← tells.occurredAt]
      exact within
    · have mine : decision ∈ system.decisionsOf event.orderId :=
        List.mem_filter.mpr ⟨charged, decide_eq_true (about.symm.trans orderId)⟩
      rw [decision_of_confirmed invariant inRows told confirmed] at mine
      exact (List.mem_singleton.mp mine).symm
  · rintro ⟨event, member, rfl⟩
    obtain ⟨inEvents, tenant, within, confirmed⟩ := Finset.mem_filter.mp (Finset.mem_toList.mp member)
    obtain ⟨row, inRows, told⟩ := mem_events.mp inEvents
    have tells := tells_of_eventOf told
    obtain ⟨orderId, -⟩ := tells.mine run inRows
    have decided : decisionOf event ∈ system.decisionsOf event.orderId := by
      rw [decision_of_confirmed invariant inRows told confirmed]
      exact List.mem_singleton_self _
    refine ⟨(List.mem_filter.mp decided).1, rfl, row, inRows, tells.confirmed_iff.mpr confirmed, orderId,
      tells.tenantId.trans tenant, ?_⟩
    rw [tells.occurredAt]
    exact within

theorem sum_booked (invariant : Settlement.Invariant system) (named : Named system.stock.order) (f : Int → Int) :
    ((booked system writtenAt tenantId range).map fun decision => f decision.totalCents).sum =
      ∑ event ∈ having (events writtenAt system.stock.order.outbox) tenantId range .confirmed, f event.totalCents := by
  rw [((booked_perm invariant named).map _).sum_eq, List.map_map]
  exact Finset.sum_map_toList _ _

theorem length_booked (invariant : Settlement.Invariant system) (named : Named system.stock.order) :
    (booked system writtenAt tenantId range).length =
      (having (events writtenAt system.stock.order.outbox) tenantId range .confirmed).card := by
  rw [(booked_perm invariant named).length_eq, List.length_map, Finset.length_toList]

/-- An approved charge is booked where its order was confirmed, unless its saga is about to complete. -/
theorem booked_of_charged (invariant : Settlement.Invariant system) (charged : decision ∈ system.decisions) (ok : decision.ok = true) :
    system.stock.order.sagaState decision.orderId = some .stockReserved ∨
      ∃ row ∈ system.stock.order.outbox, ∀ range, range.fromTime ≤ writtenAt row → writtenAt row ≤ range.toTime →
        decision ∈ booked system writtenAt row.tenantId range := by
  have mine : decision ∈ system.decisionsOf decision.orderId := List.mem_filter.mpr ⟨charged, decide_eq_true rfl⟩
  refine (invariant.state_of_charged mine ok).imp id fun completed => ?_
  obtain ⟨row, inRows, type⟩ := (invariant.supplied.order.ended decision.orderId).completed completed
  obtain ⟨sent, about⟩ := mem_rowsOf.mp inRows
  refine ⟨row, sent, fun range from_ to_ => mem_booked.mpr ⟨charged, ok, row, sent, type, about, rfl, from_, to_⟩⟩

end booked

section sample

/-- The delivery of a row, at the first instant. -/
def read (row : OutboxRow) : Delivery where
  envelope := row.envelope
  occurredAt := "1970-01-01T00:00:00.000Z"
  payload := payloadOf row.payload
  ingestedAt := 0

theorem epoch : isoDate "1970-01-01T00:00:00.000Z" = some 0 := by decide

theorem ingests_read (outbox : List OutboxRow) :
    Ingests isoDate (fun _ => 0) outbox ((outbox.filter (·.topic = .orderEvents)).map read) := by
  have reads (row : OutboxRow) : Reads isoDate (fun _ => 0) row (read row) := ⟨rfl, epoch, rfl⟩
  constructor
  · intro row member topic
    exact ⟨read row, List.mem_map_of_mem (List.mem_filter.mpr ⟨member, decide_eq_true topic⟩), reads row⟩
  · intro delivery member
    obtain ⟨row, inRows, rfl⟩ := List.mem_map.mp member
    obtain ⟨sent, topic⟩ := List.mem_filter.mp inRows
    exact ⟨row, sent, of_decide_eq_true topic, reads row⟩

/-- The one order that was charged and confirmed. -/
theorem booked_sample {system : System} (announced : Settlement.confirmedRow ∈ system.stock.order.outbox)
    (charged : system.decisions = [{ orderId := "order", totalCents := 2600, ok := true }]) :
    booked system (fun _ => 0) "tenant" ⟨0, 0⟩ = [{ orderId := "order", totalCents := 2600, ok := true }] := by
  rw [booked, charged]
  exact List.filter_cons_of_pos (decide_eq_true ⟨rfl, _, announced, by decide⟩)

end sample

end FoodDelivery.Books
