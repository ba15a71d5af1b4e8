import Mathlib.Algebra.BigOperators.Group.List.Basic
import FoodDelivery.Lib.ReadCommitted
import FoodDelivery.Inventory.Effects

namespace FoodDelivery.InventoryService

open ReadCommitted

/-- The two tables under concurrent transactions, with the reservations whose
quantity has been returned, kept for the statements only. -/
structure Books where
  inventory : Inventory
  returned : List Uuid

/-- What a transaction locks until it ends: a row it has written, and an entry
of the partial unique index. -/
inductive Lock
  | stock (key : StockKey)
  | reservation (id : Uuid)
  | active (key : ActiveKey)
  deriving DecidableEq, Repr

def Write.locks : Write → List Lock
  | .decrement key _ => [.stock key]
  | .insert reservation => [.reservation reservation.id, .active reservation.activeKey]
  | .release reservation => [.reservation reservation.id, .active reservation.activeKey]
  | .increase key _ => [.stock key]

/-- The reservations a write returns the quantity of. -/
def Write.returns : Write → List Uuid
  | .increase _ reservation => [reservation.id]
  | _ => []

def Books.apply (write : Write) (books : Books) : Books where
  inventory := books.inventory.apply write
  returned := books.returned ++ write.returns

/-- A statement waits for the rows it writes; an insert also waits for the
index entry it may be refused by. -/
def Statement.needs (statement : Statement) (inventory : Inventory) : List Lock :=
  match statement with
  | .save reservation => (Write.insert reservation).locks
  | other => (other.writes inventory).flatMap Write.locks

/-- A select returns its rows in any order, and `randomUUID` a new id. -/
def Statement.Answers : (statement : Statement) → Inventory → statement.Result → Prop
  | .findActiveByOrder tenantId orderId, inventory, rows => rows.Perm (inventory.findActiveByOrder tenantId orderId)
  | .findByItemIds tenantId itemIds, inventory, rows => rows.Perm (inventory.findByItemIds tenantId itemIds)
  | .save reservation, inventory, saved =>
    inventory.findReservation reservation.id = none ∧ saved = (Statement.save reservation).answer inventory
  | .decrementIfAvailable tenantId itemId qty, inventory, reserved =>
    reserved = (Statement.decrementIfAvailable tenantId itemId qty).answer inventory
  | .releaseIfActive reservation, inventory, released =>
    released = (Statement.releaseIfActive reservation).answer inventory
  | .increaseAvailable _ _, _, _ => True

def books : Store Statement Statement.Result Books Write Lock where
  Answers statement books := statement.Answers books.inventory
  writes statement books := statement.writes books.inventory
  Needs statement books lock := lock ∈ statement.needs books.inventory
  apply := Books.apply
  Locks write lock := lock ∈ write.locks

def Inventory.LegalWrite (inventory : Inventory) : Write → Prop
  | .decrement key qty => inventory.covers key qty = true
  | .insert reservation => reservation.status = .active ∧ 0 < reservation.qty ∧
      inventory.findReservation reservation.id = none ∧ inventory.activeRows reservation.activeKey = []
  | .release reservation =>
    inventory.findReservation reservation.id = some reservation ∧ reservation.status = .active
  | .increase key reservation => (inventory.stock.find key).isSome ∧ 0 ≤ reservation.qty

def Lock.Agree (first second : Inventory) : Lock → Prop
  | .stock key => first.stock.find key = second.stock.find key
  | .reservation id => first.findReservation id = second.findReservation id
  | .active key => first.activeRows key = second.activeRows key

def rows : Resources Books Write Lock where
  Legal write books := books.inventory.LegalWrite write
  Agree lock first second := lock.Agree first.inventory second.inventory

namespace Inventory

/-- How a write changes a stock row. -/
def stockAfter (write : Write) (key : StockKey) (row : Option Stock) : Option Stock :=
  match write with
  | .decrement key' qty =>
    if key = key' then row.map fun row => { row with available := row.available - qty } else row
  | .increase key' reservation =>
    if key = key' then row.map fun row => { row with available := row.available + reservation.qty } else row
  | _ => row

theorem apply_stock (inventory : Inventory) (write : Write) (key : StockKey) :
    (inventory.apply write).stock.find key = stockAfter write key (inventory.stock.find key) := by
  have written {key' : StockKey} {row : Stock} (found : inventory.stock.find key' = some row) (available : Int) :
      (inventory.stock.put { row with available }).find key =
        if key = key' then (inventory.stock.find key).map fun row => { row with available } else
          inventory.stock.find key := by
    have sameKey : row.key = key' := inventory.stock.keyed key' row found
    rw [Table.find_put]
    by_cases same : key = key'
    · rw [if_pos (same.trans sameKey.symm), if_pos same, same, found]
      rfl
    · rw [if_neg (sameKey.symm ▸ same), if_neg same]
  cases write with
  | decrement key' qty =>
    rw [apply, stockAfter]
    split
    · rename_i row found
      rw [written found]
      split
      · rename_i same
        rw [same, found]
        rfl
      · rfl
    · rename_i absent
      split
      · rename_i same
        rw [same, absent]
        rfl
      · rfl
  | insert reservation => rfl
  | release reservation => rfl
  | increase key' reservation =>
    rw [apply, stockAfter]
    split
    · rename_i row found
      rw [written found]
      split
      · rename_i same
        rw [same, found]
        rfl
      · rfl
    · rename_i absent
      split
      · rename_i same
        rw [same, absent]
        rfl
      · rfl

/-- How a write changes the row under an id. -/
def reservationAfter (write : Write) (id : Uuid) (row : Option Reservation) : Option Reservation :=
  match write with
  | .insert reservation => row.or (if reservation.id = id then some reservation else none)
  | .release reservation => row.map fun row => if row = reservation then row.released else row
  | _ => row

theorem apply_findReservation (inventory : Inventory) (write : Write) (id : Uuid) :
    (inventory.apply write).findReservation id = reservationAfter write id (inventory.findReservation id) := by
  cases write with
  | decrement key qty => exact congrArg _ (inventory.decrement_reservations key qty)
  | insert reservation =>
    rw [findReservation, apply, List.find?_append, List.find?_singleton, reservationAfter, findReservation]
    simp only [decide_eq_true_eq]
  | release reservation =>
    have ids : ((fun row : Reservation => decide (row.id = id)) ∘ fun row => if row = reservation then row.released else row) =
        fun row => decide (row.id = id) := by
      funext row
      rw [Function.comp_apply, release_id]
    rw [findReservation, apply, List.find?_map, ids, reservationAfter, findReservation]
  | increase key reservation => exact congrArg _ (inventory.increase_reservations key reservation)

/-- Releasing a row takes it out of any selection of ACTIVE rows. -/
theorem release_filter {P : Reservation → Prop} [DecidablePred P] (reservations : List Reservation)
    {reservation : Reservation} (drops : ¬ P reservation.released) :
    (reservations.map fun row => if row = reservation then row.released else row).filter (fun row => P row) =
      (reservations.filter fun row => P row).filter fun row => row ≠ reservation := by
  induction reservations with
  | nil => rfl
  | cons row rest ih =>
    rw [List.map_cons]
    by_cases same : row = reservation
    · subst same
      by_cases selected : P row
      · simp [selected, drops, ih]
      · simp [selected, drops, ih]
    · rw [if_neg same]
      by_cases selected : P row
      · simp [selected, same, ih]
      · simp [selected, ih]

/-- How a write changes the ACTIVE rows under a key. -/
def activeAfter (write : Write) (key : ActiveKey) (rows : List Reservation) : List Reservation :=
  match write with
  | .insert reservation => rows ++ if reservation.status = .active ∧ reservation.activeKey = key then [reservation] else []
  | .release reservation => rows.filter fun row => row ≠ reservation
  | _ => rows

theorem apply_activeRows (inventory : Inventory) (write : Write) (key : ActiveKey) :
    (inventory.apply write).activeRows key = activeAfter write key (inventory.activeRows key) := by
  cases write with
  | decrement key' qty => exact congrArg _ (inventory.decrement_reservations key' qty)
  | insert reservation =>
    rw [activeRows, apply, List.filter_append, activeAfter, activeRows]
    congr 1
    split
    · rename_i matched
      exact List.filter_cons_of_pos (decide_eq_true matched)
    · rename_i unmatched
      exact List.filter_cons_of_neg (mt of_decide_eq_true unmatched)
  | release reservation =>
    exact release_filter inventory.reservations fun matched => ReservationStatus.noConfusion matched.1
  | increase key' reservation => exact congrArg _ (inventory.increase_reservations key' reservation)

theorem findReservation_some {inventory : Inventory} {id : Uuid} {row : Reservation}
    (found : inventory.findReservation id = some row) : row ∈ inventory.reservations ∧ row.id = id :=
  ⟨List.mem_of_find?_eq_some found, by simpa using List.find?_some found⟩

theorem mem_activeRows {inventory : Inventory} {key : ActiveKey} {row : Reservation} :
    row ∈ inventory.activeRows key ↔ row ∈ inventory.reservations ∧ row.status = .active ∧ row.activeKey = key := by
  rw [activeRows, List.mem_filter, decide_eq_true_eq]

/-- A write leaves alone what it does not lock. -/
theorem agree_apply (inventory : Inventory) {write : Write} {lock : Lock} (free : lock ∉ write.locks) :
    lock.Agree inventory (inventory.apply write) := by
  cases lock with
  | stock key =>
    rw [Lock.Agree, apply_stock]
    cases write with
    | decrement key' qty =>
      have different : key ≠ key' := fun same => free (same ▸ List.mem_cons_self ..)
      exact (if_neg different).symm
    | insert reservation => rfl
    | release reservation => rfl
    | increase key' reservation =>
      have different : key ≠ key' := fun same => free (same ▸ List.mem_cons_self ..)
      exact (if_neg different).symm
  | reservation id =>
    rw [Lock.Agree, apply_findReservation]
    cases write with
    | decrement key qty => rfl
    | insert reservation =>
      have different : reservation.id ≠ id := fun same => free (same ▸ List.mem_cons_self ..)
      rw [reservationAfter, if_neg different, Option.or_none]
    | release reservation =>
      have different : reservation.id ≠ id := fun same => free (same ▸ List.mem_cons_self ..)
      rw [reservationAfter]
      cases found : inventory.findReservation id with
      | none => rfl
      | some row =>
        have other : row ≠ reservation := by
          rintro rfl
          exact different (findReservation_some found).2
        rw [Option.map_some, if_neg other]
    | increase key reservation => rfl
  | active key =>
    rw [Lock.Agree, apply_activeRows]
    cases write with
    | decrement key' qty => rfl
    | insert reservation =>
      have different : reservation.activeKey ≠ key :=
        fun same => free (same ▸ List.mem_cons_of_mem _ (List.mem_cons_self ..))
      rw [activeAfter, if_neg fun matched => different matched.2, List.append_nil]
    | release reservation =>
      have different : reservation.activeKey ≠ key :=
        fun same => free (same ▸ List.mem_cons_of_mem _ (List.mem_cons_self ..))
      refine (List.filter_eq_self.mpr ?_).symm
      intro row member
      have other : row ≠ reservation := by
        rintro rfl
        exact different (mem_activeRows.mp member).2.2
      exact decide_eq_true other
    | increase key' reservation => rfl

/-- What a write does under a lock is determined by what stood there. -/
theorem agree_apply_apply {first second : Inventory} {lock : Lock} (agree : lock.Agree first second) (write : Write) :
    lock.Agree (first.apply write) (second.apply write) := by
  cases lock with
  | stock key => exact (first.apply_stock write key).trans ((congrArg _ agree).trans (second.apply_stock write key).symm)
  | reservation id =>
    exact (first.apply_findReservation write id).trans
      ((congrArg _ agree).trans (second.apply_findReservation write id).symm)
  | active key =>
    exact (first.apply_activeRows write key).trans ((congrArg _ agree).trans (second.apply_activeRows write key).symm)

theorem LegalWrite.of_agree {first second : Inventory} {write : Write} (legal : first.LegalWrite write)
    (agree : ∀ lock ∈ write.locks, lock.Agree first second) : second.LegalWrite write := by
  cases write with
  | decrement key qty =>
    have stock : first.stock.find key = second.stock.find key := agree (.stock key) (List.mem_cons_self ..)
    rw [LegalWrite, covers, ← stock]
    exact legal
  | insert reservation =>
    have row : first.findReservation reservation.id = second.findReservation reservation.id :=
      agree (.reservation reservation.id) (List.mem_cons_self ..)
    have active : first.activeRows reservation.activeKey = second.activeRows reservation.activeKey :=
      agree (.active reservation.activeKey) (List.mem_cons_of_mem _ (List.mem_cons_self ..))
    rw [LegalWrite, ← row, ← active]
    exact legal
  | release reservation =>
    have row : first.findReservation reservation.id = second.findReservation reservation.id :=
      agree (.reservation reservation.id) (List.mem_cons_self ..)
    rw [LegalWrite, ← row]
    exact legal
  | increase key reservation =>
    have stock : first.stock.find key = second.stock.find key := agree (.stock key) (List.mem_cons_self ..)
    rw [LegalWrite, ← stock]
    exact legal

end Inventory

theorem books_local : Local books rows where
  refl lock _ := by cases lock <;> rfl
  trans {lock _ _ _} first second := by cases lock <;> exact Eq.trans first second
  symm {lock _ _} agree := by cases lock <;> exact Eq.symm agree
  legal agree legal := legal.of_agree agree
  frame books free := books.inventory.agree_apply free
  inside {write _ _} lock agree locks := Inventory.agree_apply_apply (agree lock locks) write
  needed {statement books write lock} member locks := by
    have written : lock ∈ (statement.writes books.inventory).flatMap Write.locks :=
      List.mem_flatMap.mpr ⟨write, member, locks⟩
    cases statement with
    | save reservation =>
      have inserted : write = .insert reservation := by
        have row : write ∈ (Statement.save reservation).writes books.inventory := member
        rw [Statement.writes] at row
        split at row
        · exact List.mem_singleton.mp row
        · cases row
      show lock ∈ (Write.insert reservation).locks
      rw [← inserted]
      exact locks
    | _ => exact written

end FoodDelivery.InventoryService
