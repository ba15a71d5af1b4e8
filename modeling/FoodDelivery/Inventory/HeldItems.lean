import FoodDelivery.Inventory.Effects

namespace FoodDelivery.InventoryService

open Messaging

namespace Inventory

/-- What an order holds under a tenant, an entry a row. -/
def heldItems (inventory : Inventory) (tenantId orderId : Uuid) : List ItemQty :=
  (inventory.findActiveByOrder tenantId orderId).map fun row => { itemId := row.itemId, qty := row.qty }

theorem heldItems_eq_nil {inventory : Inventory} {tenantId orderId : Uuid} :
    inventory.heldItems tenantId orderId = [] ↔ ¬ inventory.Holds tenantId orderId := by
  rw [heldItems, List.map_eq_nil_iff, holds_iff, not_not]

theorem newReservations_items (tenantId orderId : Uuid) (ids : Nat → Uuid) (items : List ItemQty) :
    (newReservations tenantId orderId ids items).map (fun row => { itemId := row.itemId, qty := row.qty }) = items := by
  induction items generalizing ids with
  | nil => rfl
  | cons item rest ih =>
    rw [newReservations, List.map_cons, ih]

/-- Items taken for an order that held none are what it holds. -/
theorem takeEach_heldItems {inventory : Inventory} {tenantId orderId : Uuid} (free : ¬ inventory.Holds tenantId orderId)
    (ids : Nat → Uuid) (items : List ItemQty) :
    (inventory.takeEach tenantId orderId ids items).heldItems tenantId orderId = items := by
  have none := heldItems_eq_nil.mpr free
  rw [heldItems, List.map_eq_nil_iff, findActiveByOrder] at none
  have all : (newReservations tenantId orderId ids items).filter (fun row => row.isActiveOf tenantId orderId) =
      newReservations tenantId orderId ids items := by
    refine List.filter_eq_self.mpr fun row member => ?_
    obtain ⟨tenant, order, active, -⟩ := mem_newReservations member
    exact Reservation.isActiveOf_iff.mpr ⟨tenant, order, active⟩
  rw [heldItems, findActiveByOrder, takeEach_reservations, List.filter_append, none, List.nil_append, all]
  exact newReservations_items tenantId orderId ids items

theorem takeEach_heldItems_of_ne (inventory : Inventory) {tenantId orderId tenantId' orderId' : Uuid}
    (other : ¬ (tenantId' = tenantId ∧ orderId' = orderId)) (ids : Nat → Uuid) (items : List ItemQty) :
    (inventory.takeEach tenantId orderId ids items).heldItems tenantId' orderId' =
      inventory.heldItems tenantId' orderId' := by
  have none : (newReservations tenantId orderId ids items).filter (fun row => row.isActiveOf tenantId' orderId') = [] := by
    rw [List.filter_eq_nil_iff]
    intro row member active
    obtain ⟨tenant, order, -⟩ := mem_newReservations member
    obtain ⟨tenant', order', -⟩ := Reservation.isActiveOf_iff.mp active
    exact other ⟨tenant'.symm.trans tenant, order'.symm.trans order⟩
  rw [heldItems, heldItems, findActiveByOrder, findActiveByOrder, takeEach_reservations, List.filter_append, none,
    List.append_nil]

/-- A change of rows that do not count before or after. -/
theorem filter_map_unseen {α : Type} {p : α → Bool} {f : α → α} {rows : List α}
    (unseen : ∀ row ∈ rows, f row = row ∨ p row = false ∧ p (f row) = false) : (rows.map f).filter p = rows.filter p := by
  induction rows with
  | nil => rfl
  | cons row rest ih =>
    have tail := ih fun other member => unseen other (List.mem_cons_of_mem _ member)
    rcases unseen row (List.mem_cons_self ..) with same | ⟨before, after⟩
    · rw [List.map_cons, same, List.filter_cons, List.filter_cons, tail]
    · simp [before, after, tail]

theorem giveBackEach_heldItems_of_ne (inventory : Inventory) {tenantId orderId tenantId' orderId' : Uuid}
    (other : ¬ (tenantId' = tenantId ∧ orderId' = orderId)) :
    ((inventory.findActiveByOrder tenantId orderId).foldl (giveBack tenantId) inventory).heldItems tenantId' orderId' =
      inventory.heldItems tenantId' orderId' := by
  have active : ∀ row ∈ inventory.findActiveByOrder tenantId orderId, row.status = .active :=
    fun row member => (mem_findActiveByOrder.mp member).2.2.2
  rw [heldItems, heldItems, findActiveByOrder, giveBackEach_reservations tenantId _ inventory active, filter_map_unseen]
  · rfl
  · intro row _
    by_cases mine : row ∈ inventory.findActiveByOrder tenantId orderId
    · rw [if_pos mine]
      obtain ⟨-, tenant, order, -⟩ := mem_findActiveByOrder.mp mine
      refine Or.inr ⟨?_, ?_⟩
      · refine Bool.eq_false_iff.mpr fun counts => other ?_
        obtain ⟨tenant', order', -⟩ := Reservation.isActiveOf_iff.mp counts
        exact ⟨tenant'.symm.trans tenant, order'.symm.trans order⟩
      · refine Bool.eq_false_iff.mpr fun counts => ?_
        cases (Reservation.isActiveOf_iff.mp counts).2.2
    · exact Or.inl (if_neg mine)

end Inventory

section outcome

variable {envelope : EventEnvelopeHeaders} {payload : Payload} {ids : Nat → Uuid} {inventory after : Inventory}
  {entry : OutboxCommandEntry}

/-- What an order holds stays, or is given back whole, or is what was asked for it. -/
theorem Outcome.heldItems (outcome : Outcome envelope ids inventory payload entry after) (tenantId orderId : Uuid) :
    after.heldItems tenantId orderId = inventory.heldItems tenantId orderId ∨ after.heldItems tenantId orderId = [] ∨
      tenantId = envelope.tenantId ∧ envelope.eventType = .reserveStock ∧ ∃ items, payload = .items orderId items ∧
        normalizeItems items = .ok (after.heldItems tenantId orderId) := by
  cases outcome with
  | held => exact Or.inl rfl
  | @taken target items normal type valid free =>
    by_cases mine : tenantId = envelope.tenantId ∧ orderId = target
    · obtain ⟨rfl, rfl⟩ := mine
      refine Or.inr (Or.inr ⟨rfl, type, items, rfl, ?_⟩)
      rw [Inventory.takeEach_heldItems free]
      exact valid
    · exact Or.inl (inventory.takeEach_heldItems_of_ne mine ids normal)
  | refused => exact Or.inl rfl
  | released =>
    by_cases mine : tenantId = envelope.tenantId ∧ orderId = payload.orderId
    · refine Or.inr (Or.inl (Inventory.heldItems_eq_nil.mpr fun holds => ?_))
      exact ((inventory.giveBackEach_holds ..).mp holds).2 mine
    · exact Or.inl (inventory.giveBackEach_heldItems_of_ne mine)

/-- Only a release of an order takes stock from it. -/
theorem Outcome.kept (outcome : Outcome envelope ids inventory payload entry after) {tenantId orderId : Uuid}
    (holds : inventory.Holds tenantId orderId) :
    after.Holds tenantId orderId ∨ envelope.eventType = .releaseStock ∧ orderId = payload.orderId := by
  cases outcome with
  | held => exact Or.inl holds
  | taken _ valid =>
    obtain ⟨item, rest, rfl⟩ := List.exists_cons_of_ne_nil (normalizeItems_ne_nil valid)
    exact Or.inl ((inventory.takeEach_holds ..).mpr (Or.inl holds))
  | refused => exact Or.inl holds
  | released type =>
    by_cases mine : tenantId = envelope.tenantId ∧ orderId = payload.orderId
    · exact Or.inr ⟨type, mine.2⟩
    · exact Or.inl ((inventory.giveBackEach_holds ..).mpr ⟨holds, mine⟩)

/-- An order that is told so has its stock. -/
theorem Outcome.reserved (outcome : Outcome envelope ids inventory payload entry after)
    (told : entry.eventType = .stockReserved) : after.Holds envelope.tenantId payload.orderId := by
  cases outcome with
  | held _ holds => exact holds
  | taken _ valid =>
    obtain ⟨item, rest, rfl⟩ := List.exists_cons_of_ne_nil (normalizeItems_ne_nil valid)
    exact (inventory.takeEach_holds ..).mpr (Or.inr ⟨rfl, rfl⟩)
  | refused => cases told
  | released => cases told

end outcome

end FoodDelivery.InventoryService
