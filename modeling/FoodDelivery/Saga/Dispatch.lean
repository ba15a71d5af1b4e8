import FoodDelivery.Delivery.OrderEvents
import FoodDelivery.Saga.Settlement

namespace FoodDelivery.Dispatch

open Messaging CommitLog
open Settings (TenantId)
open Delivery.Realtime (Handled OneEnd WasAssigned)

/-- What the delivery service handles, it has read from the order service's
topic, in any order and any number of times. -/
def Fed (outbox : List OutboxRow) (log : List (Commit Delivery.Realtime.State Delivery.Realtime.Event)) : Prop :=
  ∀ c ∈ log, ∀ tenantId eventType orderId, c.act = .handle tenantId eventType orderId →
    ∃ row ∈ outbox, row.topic = .orderEvents ∧ row.tenantId = tenantId.text ∧ row.eventType = eventType ∧
      orderId = some row.payload.orderId

section orders

variable {db : OrderService.Db} {orderLog : List (Commit OrderService.Db OrderService.Transaction)}
  {log : List (Commit Delivery.Realtime.State Delivery.Realtime.Event)} {tenantId : TenantId} {orderId : Uuid} {eventType : EventType}

/-- The end of an order that the delivery service handles is among its rows. -/
theorem row_of_handled (run : OrderService.Run orderLog db) (fed : Fed db.outbox log) (handled : Handled log tenantId eventType orderId)
    (lifecycle : eventType ∈ OrderService.lifecycleEvents) :
    ∃ row ∈ (db.view orderId).rows, row.eventType = eventType ∧ row.tenantId = tenantId.text := by
  obtain ⟨c, member, act⟩ := handled
  obtain ⟨row, sent, -, tenant, rfl, same⟩ := fed c member tenantId eventType (some orderId) act
  have mine : row ∈ (db.view row.aggregateId).rows := mem_rowsOf.mpr ⟨sent, rfl⟩
  obtain ⟨named, -⟩ := (run.ended row.aggregateId).named row mine lifecycle
  refine ⟨row, mem_rowsOf.mpr ⟨sent, ?_⟩, rfl, tenant⟩
  rw [← named, Option.some.inj same]

/-- No order ends twice. -/
theorem oneEnd (run : OrderService.Run orderLog db) (fed : Fed db.outbox log) : OneEnd log := by
  intro tenantId orderId confirmed cancelled
  obtain ⟨row, mine, type, -⟩ := row_of_handled run fed confirmed (by decide)
  obtain ⟨row', mine', type', -⟩ := row_of_handled run fed cancelled (by decide)
  have ended := run.ended orderId
  cases (ended.confirmed row mine type).1.symm.trans (ended.cancelled row' mine' type')

end orders

/-- However the order events reach the delivery service: an order that is given
to a driver is confirmed, has been charged once and over its total, and holds
its stock; it stays with the driver, who is announced at most once and is
never given a second order. -/
theorem dispatched {log : List (Commit Settlement.System Settlement.Event)} {system : Settlement.System}
    (run : Settlement.Run log system) {deliveryLog : List (Commit Delivery.Realtime.State Delivery.Realtime.Event)}
    {delivery : Delivery.Realtime.State} (delivers : Delivery.Realtime.Run deliveryLog delivery)
    (fed : Fed system.stock.order.outbox deliveryLog) (tenantId : TenantId) (orderId : Uuid) :
    (∀ driverId, WasAssigned deliveryLog delivery tenantId orderId driverId →
      delivery.holder tenantId orderId = some driverId ∧ system.Due tenantId.text orderId ∧
        ∀ other, WasAssigned deliveryLog delivery tenantId other driverId → other = orderId) ∧
      delivery.announcements tenantId orderId ≤ 1 := by
  have invariant : Settlement.Invariant system :=
    run.invariant (fun _ => Settlement.Invariant.initial) fun _ _ _ _ step before => before.step step
  have one := oneEnd invariant.supplied.order fed
  have settled := delivers.settled one tenantId orderId
  constructor
  · intro driverId was
    have holds := settled.stays driverId was
    have confirmed := settled.confirmed (Option.isSome_iff_exists.mpr ⟨driverId, holds⟩)
    obtain ⟨row, mine, type, tenant⟩ := row_of_handled invariant.supplied.order fed confirmed (by decide)
    refine ⟨holds, tenant ▸ invariant.due mine type, ?_⟩
    intro other wasToo
    have holdsToo := (delivers.settled one tenantId other).stays driverId wasToo
    exact (delivers.keeps_private.consistent tenantId).oneOrder other orderId driverId holdsToo holds
  · have announced := settled.announced
    split at announced <;> omega

section sample

open Delivery Delivery.Realtime

def courierTenant : TenantId where
  text := "tenant"
  plain := by decide

def courier : Tenancy.VerifiedIdentity where
  sub := "d1"
  tenantId := "tenant"
  roles := ["driver"]

def courierAssigned : Redis := (scriptKeys courierTenant).bind "order" "d1" Keyspace.empty

/-- The confirmed order is read from the topic and given to the driver online. -/
theorem courierRun : ∃ log s, Realtime.Run log s ∧ Fed [Settlement.confirmedRow] log ∧ s.holder courierTenant "order" = some "d1" := by
  have start : Realtime.Run [] (State.empty 1) := .start ⟨1, rfl⟩
  have located := ((start.commit (Step.connect 0 courier rfl)).commit (Step.location 0 1000 (some 1) (some 2) rfl rfl)).commit
    (Step.apply 0 rfl rfl rfl)
  have confirmed := located.commit (Step.candidates courierTenant "order" ["d1"] (by decide) sampleOnline)
  have claimed := confirmed.commit (@Step.claimed _ [_] [] _ courierAssigned courierTenant "order" ["d1"] rfl rfl)
  refine ⟨_, _, claimed, ?_, ((scriptKeys courierTenant).bind_assigned "order").trans (if_pos rfl)⟩
  intro c member tenantId eventType orderId act
  simp only [List.mem_cons, List.not_mem_nil, or_false] at member
  rcases member with rfl | rfl | rfl | rfl | rfl <;> cases act
  exact ⟨_, List.mem_singleton_self _, rfl, rfl, rfl, rfl⟩

end sample

/-- The order of the sample is due. -/
theorem dispatched_of_sample : ∃ log system, Settlement.Run log system ∧ system.Due "tenant" "order" := by
  obtain ⟨log, system, run, -, announced, -, -⟩ := Settlement.settledRun
  obtain ⟨deliveryLog, delivery, delivers, fed, holds⟩ := courierRun
  have read : Fed system.stock.order.outbox deliveryLog := by
    intro c member tenantId eventType orderId act
    obtain ⟨row, one, told⟩ := fed c member tenantId eventType orderId act
    exact ⟨row, List.mem_singleton.mp one ▸ announced, told⟩
  obtain ⟨due, -⟩ := dispatched run delivers read courierTenant "order"
  exact ⟨log, system, run, (due "d1" ⟨delivery, .current, holds⟩).2.1⟩

end FoodDelivery.Dispatch
