import Mathlib.Data.List.Sort
import FoodDelivery.Lib.Except
import FoodDelivery.Messaging.Envelope

namespace FoodDelivery.InventoryService

open Messaging

inductive ReservationStatus
  | active
  | released
  deriving DecidableEq, Repr

/-- A row of `reservations`. -/
structure Reservation where
  id : Uuid
  tenantId : Uuid
  orderId : Uuid
  itemId : Uuid
  qty : Int
  status : ReservationStatus
  deriving DecidableEq, Repr

structure StockKey where
  tenantId : Uuid
  itemId : Uuid
  deriving DecidableEq, Repr

/-- A row of `stock`. -/
structure Stock where
  key : StockKey
  available : Int
  deriving DecidableEq, Repr

def Reservation.stockKey (reservation : Reservation) : StockKey where
  tenantId := reservation.tenantId
  itemId := reservation.itemId

/-- The errors of the inventory service, each with what its constructor is given. -/
inductive InventoryError
  | insufficientStock (itemId : Uuid) (requested available : Int)
  | stockNotFound (itemId : Uuid)
  | invalidReserveRequest (reason : String)
  | idempotencyConflict (orderId : Uuid)
  | invalidReservation (reason : String)
  | unknownCommand (name : String)
  | malformedPayload
  | uniqueViolation
  deriving DecidableEq, Repr

/-- `byItem.set(itemId, (byItem.get(itemId) ?? 0) + qty)`. -/
def addQty (item : ItemQty) : List ItemQty → List ItemQty
  | [] => [item]
  | known :: rest =>
    if item.itemId = known.itemId then { known with qty := known.qty + item.qty } :: rest
    else known :: addQty item rest

/-- The loop over the lines. A quantity that is no integer is refused like one
that is not positive, so quantities are integers here. -/
def sumByItem (byItem : List ItemQty) : List ItemQty → Except InventoryError (List ItemQty)
  | [] => pure byItem
  | item :: rest =>
    if item.qty ≤ 0 then
      throw (.invalidReserveRequest ("quantity for item \"" ++ item.itemId ++ "\" must be a positive integer"))
    else sumByItem (addQty item byItem) rest

/-- The total per item, in the order of the item ids. -/
def normalizeItems (items : List ItemQty) : Except InventoryError (List ItemQty) :=
  if items.length = 0 then throw (.invalidReserveRequest "no items to reserve")
  else do
    let byItem ← sumByItem [] items
    return byItem.insertionSort fun a b => a.itemId ≤ b.itemId

/-- A replay asks for the items and quantities that the order holds; the last
row of an item is the one its map keeps. -/
def assertReplayMatches (existing : List Reservation) (requested : List ItemQty) (orderId : Uuid) :
    Except InventoryError Unit :=
  let held (itemId : Uuid) := (existing.reverse.find? fun row => row.itemId = itemId).map (·.qty)
  if existing.length = requested.length ∧ ∀ item ∈ requested, held item.itemId = some item.qty then pure ()
  else throw (.idempotencyConflict orderId)

def Reservation.create (id tenantId orderId : Uuid) (item : ItemQty) : Except InventoryError Reservation :=
  if item.qty ≤ 0 then throw (.invalidReservation "Reservation qty must be a positive integer")
  else return { id, tenantId, orderId, itemId := item.itemId, qty := item.qty, status := .active }

theorem Reservation.create_ok {id tenantId orderId : Uuid} {item : ItemQty} {reservation : Reservation} :
    Reservation.create id tenantId orderId item = .ok reservation ↔ 0 < item.qty ∧
      reservation = { id, tenantId, orderId, itemId := item.itemId, qty := item.qty, status := .active } := by
  rw [Reservation.create, Except.reject_ok, Except.pure_ok, not_le, eq_comm (b := reservation)]

/-- What normalising makes of the lines: one entry an item, each positive. -/
structure Normal (items : List ItemQty) : Prop where
  distinct : (items.map (·.itemId)).Nodup
  positive : ∀ item ∈ items, 0 < item.qty

theorem addQty_itemIds (item : ItemQty) (byItem : List ItemQty) : (addQty item byItem).map (·.itemId) =
    if item.itemId ∈ byItem.map (·.itemId) then byItem.map (·.itemId) else byItem.map (·.itemId) ++ [item.itemId] := by
  induction byItem with
  | nil => rfl
  | cons known rest ih =>
    rw [addQty]
    by_cases same : item.itemId = known.itemId
    · rw [if_pos same, if_pos (by rw [same]; exact List.mem_cons_self ..)]
      rfl
    · rw [if_neg same, List.map_cons, List.map_cons, ih]
      by_cases known' : item.itemId ∈ rest.map (·.itemId)
      · rw [if_pos known', if_pos (List.mem_cons_of_mem _ known')]
      · have absent : item.itemId ∉ known.itemId :: rest.map (·.itemId) := by
          rw [List.mem_cons, not_or]
          exact ⟨same, known'⟩
        rw [if_neg known', if_neg absent, List.cons_append]

theorem Normal.addQty {item : ItemQty} {byItem : List ItemQty} (normal : Normal byItem) (positive : 0 < item.qty) :
    Normal (addQty item byItem) := by
  refine ⟨?_, ?_⟩
  · rw [addQty_itemIds]
    split
    · exact normal.distinct
    · rename_i new
      refine List.nodup_append.mpr ⟨normal.distinct, List.nodup_singleton _, ?_⟩
      intro id known other single same
      rw [same, List.mem_singleton.mp single] at known
      exact new known
  · have all := normal.positive
    clear normal
    induction byItem with
    | nil =>
      intro other member
      rw [List.mem_singleton.mp member]
      exact positive
    | cons known rest ih =>
      have tail := ih fun other member => all other (List.mem_cons_of_mem _ member)
      have head := all known (List.mem_cons_self ..)
      intro other member
      rw [InventoryService.addQty] at member
      split at member
      · rcases List.mem_cons.mp member with rfl | old
        · show 0 < known.qty + item.qty
          omega
        · exact all other (List.mem_cons_of_mem _ old)
      · rcases List.mem_cons.mp member with rfl | old
        · exact head
        · exact tail other old

theorem sumByItem_normal {items byItem result : List ItemQty} (normal : Normal byItem)
    (run : sumByItem byItem items = .ok result) : Normal result := by
  induction items generalizing byItem with
  | nil =>
    cases Except.ok.inj run
    exact normal
  | cons item rest ih =>
    rw [sumByItem, Except.reject_ok] at run
    exact ih (normal.addQty (not_le.mp run.1)) run.2

theorem normalizeItems_normal {items result : List ItemQty} (run : normalizeItems items = .ok result) :
    Normal result := by
  rw [normalizeItems, Except.reject_ok, Except.bind_ok] at run
  obtain ⟨-, byItem, sums, sorted⟩ := run
  have none : Normal [] := ⟨List.nodup_nil, fun item absent => absurd absent List.not_mem_nil⟩
  have normal := sumByItem_normal none sums
  cases Except.pure_ok.mp sorted
  have same := List.perm_insertionSort (fun a b : ItemQty => a.itemId ≤ b.itemId) byItem
  refine ⟨(same.map _).nodup_iff.mpr normal.distinct, ?_⟩
  intro item member
  exact normal.positive item (same.mem_iff.mp member)

theorem addQty_ne_nil (item : ItemQty) (byItem : List ItemQty) : addQty item byItem ≠ [] := by
  cases byItem with
  | nil => exact List.cons_ne_nil _ _
  | cons known rest =>
    rw [addQty]
    split <;> exact List.cons_ne_nil _ _

theorem sumByItem_ne_nil {items byItem result : List ItemQty} (some : byItem ≠ [] ∨ items ≠ [])
    (run : sumByItem byItem items = .ok result) : result ≠ [] := by
  induction items generalizing byItem with
  | nil =>
    cases Except.ok.inj run
    exact some.resolve_right fun absent => absent rfl
  | cons item rest ih =>
    rw [sumByItem, Except.reject_ok] at run
    exact ih (Or.inl (addQty_ne_nil item byItem)) run.2

theorem normalizeItems_ne_nil {items result : List ItemQty} (run : normalizeItems items = .ok result) :
    result ≠ [] := by
  rw [normalizeItems, Except.reject_ok, Except.bind_ok] at run
  obtain ⟨some, byItem, sums, sorted⟩ := run
  cases Except.pure_ok.mp sorted
  have summed := sumByItem_ne_nil (Or.inr (mt List.length_eq_zero_iff.mpr some)) sums
  intro none
  have same := List.perm_insertionSort (fun a b : ItemQty => a.itemId ≤ b.itemId) byItem
  rw [none] at same
  exact summed (List.nil_perm.mp same)

theorem sumByItem_error {items byItem : List ItemQty} {error : InventoryError}
    (run : sumByItem byItem items = .error error) : ∃ reason, error = .invalidReserveRequest reason := by
  induction items generalizing byItem with
  | nil => cases run
  | cons item rest ih =>
    rw [sumByItem] at run
    split at run
    · cases run
      exact ⟨_, rfl⟩
    · exact ih run

theorem normalizeItems_error {items : List ItemQty} {error : InventoryError}
    (run : normalizeItems items = .error error) : ∃ reason, error = .invalidReserveRequest reason := by
  rw [normalizeItems] at run
  split at run
  · cases run
    exact ⟨_, rfl⟩
  · cases sums : sumByItem [] items with
    | error other =>
      rw [sums] at run
      cases run
      exact sumByItem_error sums
    | ok byItem =>
      rw [sums] at run
      cases run

end FoodDelivery.InventoryService
